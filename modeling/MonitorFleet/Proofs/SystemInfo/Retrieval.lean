import MonitorFleet.Proofs.SystemInfo.Expected
import MonitorFleet.Proofs.Task.Completion
import MonitorFleet.Proofs.Tree.Straight

/-!
# The retrieval of system information

The retrieval asks for the nodes of the cluster and runs a task for each. If the tasks go by a script,
the retrieval comes to its end and leaves behind what is expected of the script, whatever the order
of events.

## What is proved

* `begins_of_launch`: what the tasks begin with.
* `Ready.completes`: a retrieval can be brought to its end.
* `retrieved_of_byScript`: the retrieval comes to its end, with all that is expected.
* `merged_of_link`: two nodes may have one file, which then is of neither of them alone.
-/

namespace MonitorFleet.SystemInfo

open FanOut (Event)

variable {i : SystemInfo} {token : RunToken} {script : String → Nat → Conduct} {w : World}
  {names : List String} {events : List (Event Happening)} {w₀ : World} {f : FanOut World Task}

/-! ### The end of a retrieval -/

/-- A world in which the tasks begin is that from before, but for the log and for a question
that is not about a node. -/
structure Begins (w w₀ : World) : Prop where
  tree : w₀.tree = w.tree
  tokens : w₀.tokens = w.tokens
  lookups : ∀ node, w₀.lookups node = w.lookups node

/-- Before the tasks begin, the cluster is asked for its nodes, and records are written. -/
theorem begins_of_launch (i : SystemInfo) (token : RunToken) (nodes : List NodeAddress) (w : World) :
    ∃ w₀, i.launch token nodes (prepare w) =
      FanOut.start (i.operation token) (nodes.map (·.name)) w₀ ∧ Begins w w₀ := by
  obtain ⟨log, hlog⟩ := World.foldl_note (listing nodes) (prepare w)
  refine ⟨{ prepare w with log }, ?_, rfl, rfl, fun node => ?_⟩
  · rw [launch, hlog]
  · simp [World.lookups, prepare, Query.isLookup]

/-- That the nodes can be retrieved from: they have different names, their files can be written,
the run is not cancelled, and no attempt fails as if it were. -/
structure Ready (i : SystemInfo) (token : RunToken) (script : String → Nat → Conduct)
    (names : List String) (w : World) : Prop where
  distinct : names.Nodup
  writable : ∀ node ∈ names, ∃ place, w.tree.place? (i.path node) = some place
  live : w.isCancelled token = false
  honest : ∀ node ∈ names, ∀ k < i.policy.limit, i.error? script node k ≠ some .cancelled

/-- Then the tasks can begin. -/
theorem Ready.course (ready : Ready i token script names w) (begins : Begins w w₀) :
    Course.Ready (i.course token script w.tree) names w₀ where
  distinct := ready.distinct
  writable node hmem := by
    rw [begins.tree]
    exact place?_of_leads (ready.writable node hmem)
  live := (congrArg (Tokens.isCancelled · token) begins.tokens).trans ready.live
  honest := ready.honest

/-- A retrieval that is over leaves behind what it should. -/
theorem retrieved_of_isOver (ready : Ready i token script names w) (begins : Begins w w₀)
    (scripted : ByScript i.session.monitors script names events)
    (h : (FanOut.start (i.operation token) names w₀).run (i.operation token) events = some f)
    (isOver : f.isOver = true) : Retrieved i script names w (finished f).1 (finished f).2 := by
  have ended : ∀ j node, names[j]? = some node →
      Course.Ended (i.course token script w.tree) names events w₀ f.world f.report j node :=
    fun j node hj => Course.ended_of_run (ready.course begins) scripted h isOver hj
  have shared : ∀ node ∈ names, _ :=
    fun _ => shared_of_ended ready.writable ended ready.distinct begins.tree
  refine ⟨?_, ?_, ?_, shared, ?_, ?_⟩
  · intro node hmem
    obtain ⟨j, hj⟩ := List.getElem?_of_mem hmem
    rw [← begins.lookups]
    exact (ended j node hj).attempts
  · intro node hmem alone
    obtain ⟨parts, merged, content⟩ := shared node hmem
    obtain ⟨hparts, hopened⟩ := merged.alone hmem alone
    rw [hparts, hopened] at content
    exact content
  · intro unlinked node hmem other hmem' hsame
    obtain ⟨place, leads⟩ := ready.writable node hmem
    rw [sameFile, leads, beq_iff_eq] at hsame
    exact eq_of_unlinked leads hsame.symm (unlinked node hmem) (unlinked other hmem')
  · rw [← failures_eq_nil_iff h ended, fst_finished]
    by_cases hnil : f.report.failures.entries = [] <;> simp [hnil]
  · rw [fst_finished, FanOut.operation_of_run h]
    by_cases hnil : f.report.failures.entries = []
    · exact .inl (if_pos hnil)
    · exact .inr ⟨_, if_neg hnil, f.report.sorted_failures, mem_failures_iff h ended⟩

/-- A retrieval can be brought to its end. -/
theorem Ready.completes (nodes : List NodeAddress)
    (ready : Ready i token script (nodes.map (·.name)) w) :
    ∃ events f, (i.launch token nodes (prepare w)).run (i.operation token) events = some f ∧
      f.isOver = true ∧ ByScript i.session.monitors script (nodes.map (·.name)) events := by
  obtain ⟨w₀, launched, begins⟩ := i.begins_of_launch token nodes w
  rw [launched]
  exact Course.completes (ready.course begins) (Course.byScript_nil ..) (FanOut.run_nil _)

/-- **The retrieval from the nodes of a cluster** comes to its end, whatever the order of events, and
leaves behind what its script says. Only so many events can happen; as long as it is not over,
another one can happen; and when it is over, all is as it should be. -/
theorem retrieved_of_byScript (nodes : List NodeAddress) (distinct : (nodes.map (·.name)).Nodup)
    (writable : ∀ node ∈ nodes.map (·.name), ∃ place, w.tree.place? (i.path node) = some place)
    (live : w.isCancelled token = false)
    (honest : ∀ node ∈ nodes.map (·.name), ∀ k < i.policy.limit,
      i.error? script node k ≠ some .cancelled) :
    ∃ most : Nat, ∀ events f,
      (i.launch token nodes (prepare w)).run (i.operation token) events = some f →
      ByScript i.session.monitors script (nodes.map (·.name)) events →
      events.length ≤ most ∧
      (f.isOver = false → ∃ e f', f.apply (i.operation token) e = some f' ∧
        ByScript i.session.monitors script (nodes.map (·.name)) (events ++ [e])) ∧
      (f.isOver = true →
        Retrieved i script (nodes.map (·.name)) w (finished f).1 (finished f).2) := by
  obtain ⟨w₀, launched, begins⟩ := i.begins_of_launch token nodes w
  have ready : Ready i token script (nodes.map (·.name)) w := ⟨distinct, writable, live, honest⟩
  rw [launched]
  exact ⟨_, fun events f h scripted => ⟨Course.length_le (ready.course begins) scripted h,
    Course.goes_on (ready.course begins) scripted h,
    retrieved_of_isOver ready begins scripted h⟩⟩

/-! ### Two nodes and their files -/

/-- Fetches for a session at `/s`, in two attempts at most. -/
def sample : SystemInfo := ⟨⟨"s", "/s", .direct, .default⟩, ⟨2, .zero⟩⟩

/-- Two nodes. -/
def sampleNodes : List NodeAddress := [⟨"a", none⟩, ⟨"b", none⟩]

/-- A world with that session in it and one run, where something stands at the path of the first
node. -/
def sampleWorld (entry : Entry) : World where
  tree := ⟨[(["s"], .directory), (["s", "a.sysinfo"], entry)], []⟩
  tokens := { runs := [false] }

/-- A monitor that streams a chunk, until something breaks the stream. -/
def streaming (chunk : String) (break? : Option Status) : Conduct where
  address := .ok "h"
  pod := .error (.cluster "no pods")
  localPort := .error (.cluster "no pods")
  reached := true
  reply := .ok ()
  chunks := [chunk.toUTF8]
  break? := break?

/-- The stream of the first node breaks in the first attempt, and the second node is never reached. -/
def faltering (node : String) (k : Nat) : Conduct :=
  if node = "b" then { streaming "z" none with reached := false }
  else if k = 0 then streaming "x" (some ⟨.unavailable, "gone"⟩)
  else streaming "y" none

theorem place?_free (entry : Entry) :
    (sampleWorld entry).tree.place? (sample.path "b") = some ["s", "b.sysinfo"] := by
  have found : (sampleWorld entry).tree.find true (sample.path "b") =
      .ok (.absent ["s"] "b.sysinfo" false) := Tree.find_of_straight? rfl true
  rw [Tree.place?, found]
  rfl

theorem place?_file (content : ByteArray) :
    (sampleWorld (.file content)).tree.place? (sample.path "a") = some ["s", "a.sysinfo"] := by
  have found : (sampleWorld (.file content)).tree.find true (sample.path "a") =
      .ok (.found ["s", "a.sysinfo"] (.file content)) := Tree.find_of_straight? rfl true
  rw [Tree.place?, found]
  rfl

theorem place?_link :
    (sampleWorld (.link "b.sysinfo")).tree.place? (sample.path "a") = some ["s", "b.sysinfo"] := by
  have spelled : sample.path "a" = "/s/a.sysinfo" := by decide +kernel
  have names : Path.names "/s/a.sysinfo" = ["", "s", "a.sysinfo"] ∧
      Path.names "b.sysinfo" = ["b.sysinfo"] := by decide +kernel
  have absolute : Path.isAbsolute "/s/a.sysinfo" = true ∧ Path.isAbsolute "b.sysinfo" = false := by
    decide +kernel
  have short : "/s/a.sysinfo".utf8ByteSize = 12 ∧ ¬ 255 < "s".utf8ByteSize ∧
      ¬ 255 < "a.sysinfo".utf8ByteSize ∧ ¬ 255 < "b.sysinfo".utf8ByteSize := by decide +kernel
  simp [Tree.place?, spelled, Tree.find, names, absolute, short, Tree.maxPath, Tree.maxName, Tree.maxLinks,
    Tree.start, Tree.walk, Tree.get?, sampleWorld, Place.file?]

/-- What can be said of two nodes whose attempts do not fail as if the run were cancelled. -/
theorem ready_sample {script : String → Nat → Conduct} {entry : Entry} {place : Location}
    (leads : (sampleWorld entry).tree.place? (sample.path "a") = some place)
    (mild : ∀ node ∈ ["a", "b"], ∀ k < sample.policy.limit,
      (sample.error? script node k).all (!·.isCancelled) = true) :
    Ready sample 0 script ["a", "b"] (sampleWorld entry) where
  distinct := by decide
  writable node hmem := by
    rcases List.mem_pair.1 hmem with rfl | rfl
    · exact ⟨place, leads⟩
    · exact ⟨_, place?_free entry⟩
  live := rfl
  honest node hmem k hk cancelled := by
    have := mild node hmem k hk
    rw [cancelled] at this
    cases this

/-- The file of the first node keeps what came before its stream broke. -/
theorem retrieved_of_faltering : ∃ events f,
    (sample.launch 0 sampleNodes (prepare (sampleWorld (.file "o".toUTF8)))).run
      (sample.operation 0) events = some f ∧ f.isOver = true ∧
    (finished f).1 ≠ .ok () ∧ (finished f).2.lookups "a" = 2 ∧
    (finished f).2.tree.fileAt? (sample.path "a") = some "oxy".toUTF8 ∧
    (finished f).2.tree.fileAt? (sample.path "b") = none := by
  have ready : Ready sample 0 faltering ["a", "b"] (sampleWorld (.file "o".toUTF8)) :=
    ready_sample (place?_file _) (by decide +kernel)
  obtain ⟨most, all⟩ := retrieved_of_byScript sampleNodes ready.distinct ready.writable ready.live
    ready.honest
  obtain ⟨events, f, h, isOver, scripted⟩ := Ready.completes sampleNodes ready
  obtain ⟨-, -, retrieved⟩ := all events f h scripted
  have retrieved := retrieved isOver
  have apart : sample.sameFile (sampleWorld (.file "o".toUTF8)).tree "a" "b" = false := by
    rw [sameFile, place?_file, place?_free]
    decide
  refine ⟨events, f, h, isOver, ?_, ?_, ?_, ?_⟩
  · intro hok
    have unreached : ∀ k < sample.policy.limit, (sample.error? faltering "b" k).isSome = true := by
      decide +kernel
    obtain ⟨k, hk, clean⟩ := retrieved.succeeded.1 hok "b" (by decide)
    have := unreached k hk
    rw [clean] at this
    cases this
  · rw [retrieved.attempts "a" (by decide)]
    decide +kernel
  · rw [retrieved.own "a" (by decide), Tree.fileAt?, place?_file]
    · decide +kernel
    · intro other hmem hsame
      rcases List.mem_pair.1 hmem with rfl | rfl
      · rfl
      · rw [apart] at hsame
        cases hsame
  · rw [retrieved.own "b" (by decide), Tree.fileAt?, place?_free]
    · decide +kernel
    · intro other hmem hsame
      rcases List.mem_pair.1 hmem with rfl | rfl
      · rw [sameFile, BEq.comm] at hsame
        rw [sameFile, hsame] at apart
        cases apart
      · rfl

/-- Two nodes that stream the same chunk into one file. -/
def steady (_ : String) (_ : Nat) : Conduct := streaming "x" none

/-- What was received from both is the chunk twice. -/
theorem Merged.steady {tree : Tree} {parts : List (String × ByteArray)}
    (merged : Merged sample steady ["a", "b"] tree "b" parts)
    (same : sample.sameFile tree "b" "a" = true) :
    parts.map (·.2) = ["x".toUTF8, "x".toUTF8] := by
  have received : ∀ node ∈ ["a", "b"], (parts.filter (·.1 == node)).map (·.2) = ["x".toUTF8] := by
    intro node hmem
    have hreceived : sample.received SystemInfo.steady node = ["x".toUTF8] := by
      rcases List.mem_pair.1 hmem with rfl | rfl <;> decide +kernel
    rw [← hreceived]
    refine merged.ordered node hmem ?_
    rcases List.mem_pair.1 hmem with rfl | rfl
    · exact same
    · exact beq_self_eq_true _
  have others : parts.filter (fun x => !(x.1 == "a")) = parts.filter (·.1 == "b") := by
    refine List.filter_congr fun x hx => ?_
    rcases List.mem_pair.1 (merged.comes x hx).1 with h | h <;> rw [h] <;> decide
  have lengths : ∀ node ∈ ["a", "b"], (parts.filter (·.1 == node)).length = 1 := by
    intro node hmem
    have := congrArg List.length (received node hmem)
    rwa [List.length_map] at this
  refine (List.eq_replicate_iff (n := 2)).2 ⟨?_, ?_⟩
  · rw [List.length_map, List.length_eq_length_filter_add (·.1 == "a"), others,
      lengths "a" (by decide), lengths "b" (by decide)]
  · intro chunk hchunk
    obtain ⟨x, hx, rfl⟩ := List.mem_map.1 hchunk
    have hmem := (merged.comes x hx).1
    refine List.mem_singleton.1 (received x.1 hmem ▸ List.mem_map.2 ⟨x, ?_, rfl⟩)
    exact List.mem_filter.2 ⟨hx, beq_self_eq_true _⟩

/-- **Two nodes may have one file**, which then does not hold what was received from one of them. -/
theorem merged_of_link :
    (∀ node ∈ ["a", "b"], '/' ∉ node.toList) ∧
    Ready sample 0 steady ["a", "b"] (sampleWorld (.link "b.sysinfo")) ∧
    ∃ events f, (sample.launch 0 sampleNodes (prepare (sampleWorld (.link "b.sysinfo")))).run
        (sample.operation 0) events = some f ∧
      ByScript sample.session.monitors steady ["a", "b"] events ∧ f.isOver = true ∧
      (finished f).2.tree.fileAt? (sample.path "b") = some "xx".toUTF8 ∧
      withChunks ((sampleWorld (.link "b.sysinfo")).tree.fileAt? (sample.path "b"))
        (sample.isTaken steady "b") (sample.received steady "b") = some "x".toUTF8 := by
  have ready : Ready sample 0 steady ["a", "b"] (sampleWorld (.link "b.sysinfo")) :=
    ready_sample place?_link (by decide +kernel)
  have same : sample.sameFile (sampleWorld (.link "b.sysinfo")).tree "b" "a" = true := by
    rw [sameFile, place?_link, place?_free]
    exact beq_self_eq_true _
  obtain ⟨events, f, h, isOver, scripted⟩ := Ready.completes sampleNodes ready
  obtain ⟨w₀, launched, begins⟩ := sample.begins_of_launch 0 sampleNodes
    (sampleWorld (.link "b.sysinfo"))
  have retrieved := retrieved_of_isOver ready begins scripted (launched ▸ h) isOver
  refine ⟨by decide, ready, events, f, h, scripted, isOver, ?_, ?_⟩
  · obtain ⟨parts, merged, content⟩ := retrieved.shared "b" (by decide)
    have opened : (["a", "b"].any fun other =>
        sample.sameFile (sampleWorld (.link "b.sysinfo")).tree "b" other &&
          sample.isTaken steady other) = true :=
      List.any_eq_true.2 ⟨"b", by decide,
        Bool.and_eq_true_iff.2 ⟨beq_self_eq_true _, by decide +kernel⟩⟩
    rw [content, merged.steady same, opened, Tree.fileAt?, place?_free]
    decide +kernel
  · rw [Tree.fileAt?, place?_free]
    decide +kernel

end MonitorFleet.SystemInfo
