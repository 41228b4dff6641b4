import TurnByTurn.Proofs.Command.Arguments
import TurnByTurn.Proofs.Command.Effects
import TurnByTurn.Proofs.Trace.Outcome
import TurnByTurn.Proofs.Trace.Written

/-! # The trace of a single file

Asked for the trace of a single route file without departure, the command prints or writes every sample of the
route with its time. It does so for all routes that can be traced and whose total time has a duration for display.
Of a longer route it says that the number is too large, and leaves everything as it was.

* **`Command.timed_none`** — the trace of a route without departure.
* **`Trace.Delivers`** — what a run owes for a text that it has to print or write.
* **`Trace.delivers_or_tooLarge_of_run`** — the runs on a route file that can be traced.
* **`Trace.tooLarge_halfClock`** — a route that can be traced, of which nothing is printed. -/

namespace TurnByTurn.Command

open Json (Node Value IsDocument)

variable {current : List String} {environment : String → Option String} {asked : Trace} {t t' after : Tree}
  {p : Path} {route : Route} {samples : List Sample} {total : Milliseconds} {content : String} {file : RouteFile}
  {trace : Value}

/-! ## Traces without departure -/

/-- Without departure every sample stays as it is. -/
theorem mapM_timedSample_none (samples : List Sample) :
    samples.mapM (timedSample none) = .ok (samples.map untimed) := by
  induction samples with
  | nil => rfl
  | cons sample samples ih =>
      rw [List.mapM_cons, ih]
      rfl

/-- Half of all clock readings have a duration for display. -/
theorem isSome_ofMilliseconds?_iff (time : Milliseconds) :
    (Duration.ofMilliseconds? time).isSome = true ↔ time.toNat < 2 ^ 63 := by
  unfold Duration.ofMilliseconds?
  have hcount : Duration.count = 2 ^ 63 := rfl
  split_ifs with h
  · exact iff_of_true rfl (hcount ▸ h)
  · exact iff_of_false Bool.false_ne_true (hcount ▸ h)

/-- **The trace of a route without departure**: its samples, if the total time has a duration for display. -/
theorem timed_none (htrace : route.trace .greatCircle 0 = .ok samples) (htotal : route.totalTime = .ok total) :
    timed none route
      = if total.toNat < 2 ^ 63 then .ok (samples.map untimed) else .error .durationTooLarge := by
  have hiff := isSome_ofMilliseconds?_iff total
  rw [timed, htrace, htotal]
  dsimp only
  cases hduration : Duration.ofMilliseconds? total with
  | none =>
      rw [hduration] at hiff
      rw [if_neg (mt hiff.mpr nofun)]
  | some duration =>
      rw [hduration] at hiff
      rw [if_pos (hiff.mp rfl)]
      exact mapM_timedSample_none samples

/-- **A route that can be traced has a total time.** -/
theorem exists_totalTime_of_trace {calculator : Calculator} {start : Milliseconds}
    (h : route.trace calculator start = .ok samples) : ∃ total, route.totalTime = .ok total := by
  have hnone := Route.exists_traceFrom_iff_faultAt?.mp ⟨samples, h⟩
  have hfits := ((Route.forall_faultAt?_eq_none_iff start.toNat_lt).mp hnone).2.2.1
  refine Route.exists_addTimes_iff.mpr ?_
  rw [UInt64.toNat_zero]
  omega

/-! ## Files -/

/-- **The route of a file** that has one. -/
theorem on_load (hfile : t.find? current p = some (.file content)) (hread : RouteFile.read content = .ok file)
    (hroute : file.route .greatCircle = .ok route) :
    on (load (Tree.host current environment) p) t = (.ok route, t) := by
  have htext : ((Tree.host current environment).read p).run t = (some content, t) := by
    simp only [Tree.host, StateT.run_bind, StateT.run_get, pure_bind, Tree.read?, hfile]
    rfl
  rw [load, on_bind, on_liftM, htext]
  dsimp only
  rw [hread]
  dsimp only
  rw [hroute]
  rfl

namespace Trace

/-- **The trace of a file** that holds a route. -/
theorem on_ofFile (hfile : t.find? current p = some (.file content)) (hread : RouteFile.read content = .ok file)
    (hroute : file.route .greatCircle = .ok route) :
    on (ofFile (Tree.host current environment) asked p) t = ((timed asked.start route).map traceJson, t) := by
  rw [ofFile, on_bind_of_ok (on_load hfile hread hroute)]
  cases timed asked.start route <;> rfl

/-! ## Deliveries -/

/-- **What a run owes for a text**: without an output file it prints it on lines of its own and changes nothing.
Otherwise it prints nothing and writes it to the output file. If that is not possible it makes nothing but folders,
and fails unless there is only no room. -/
structure Delivers (current : List String) (asked : Trace) (text : String) (t : Tree)
    (result : Except Fault String) (after : Tree) : Prop where
  printed : asked.out = none → result = .ok (text ++ "\n") ∧ after = t
  saved : ∀ out, asked.out = some out → (∃ t', t.write current out text = .ok t') →
    result = .ok "" ∧ Tree.Written current out text t after
  unsaved : ∀ out cause, asked.out = some out → t.write current out text = .error cause →
    (result = .error .inaccessible ∨ cause = .full ∧ result = .ok "") ∧ Tree.Keeps (fun _ => False) t after

/-- **The trace of a single file is delivered.** -/
theorem delivers_of_on_run {result : Except Fault String} (hcurrent : t.IsFolder current)
    (hfile : t.isFileAt current asked.input = true)
    (htrace : on (ofFile (Tree.host current environment) asked asked.input) t = (.ok trace, t))
    (hrun : on (asked.run (Tree.host current environment)) t = (result, after)) :
    Delivers current asked trace.pretty t result after := by
  rw [on_run_of_isFileAt hfile, on_bind_of_ok htrace] at hrun
  cases hout : asked.out with
  | none =>
      rw [hout] at hrun
      obtain ⟨rfl, rfl⟩ := Prod.mk.inj hrun
      refine ⟨fun _ => ⟨rfl, rfl⟩, fun out hsome => ?_, fun out cause hsome => ?_⟩ <;> cases hout.symm.trans hsome
  | some out =>
      rw [hout] at hrun
      dsimp only at hrun
      rw [on_bind] at hrun
      -- a path of a single segment begins in the current folder or in the root
      have hbegin : out.segments.length = 1 → t.IsFolder (out.origin current) := by
        intro _
        rw [Path.origin]
        split_ifs
        · have hroot : t.IsFolder ([] ++ current) := hcurrent
          exact hroot.of_append
        · exact hcurrent
      refine ⟨fun hnone => ?_, fun out' hsome hwrites => ?_, fun out' cause hsome hwrite => ?_⟩
      · cases hout.symm.trans hnone
      · obtain ⟨t', hwrite⟩ := hwrites
        obtain rfl : out = out' := Option.some.inj (hout.symm.trans hsome)
        rw [on_saveTrace hwrite] at hrun
        obtain ⟨rfl, rfl⟩ := Prod.mk.inj hrun
        exact ⟨rfl, Tree.written_of_write hbegin hwrite⟩
      · obtain rfl : out = out' := Option.some.inj (hout.symm.trans hsome)
        have hkeeps := Tree.keeps_prepare t current out
        obtain ⟨hfull, hsave⟩ | hsave := on_saveTrace_of_error environment hwrite
        · rw [hsave] at hrun
          obtain ⟨rfl, rfl⟩ := Prod.mk.inj hrun
          exact ⟨Or.inr ⟨hfull, rfl⟩, hkeeps⟩
        · rw [hsave] at hrun
          obtain ⟨rfl, rfl⟩ := Prod.mk.inj hrun
          exact ⟨Or.inl rfl, hkeeps⟩

/-- **A route that is too long for display** is not traced, and nothing is changed. -/
theorem on_run_of_tooLarge (hstart : asked.start = none)
    (hfile : t.find? current asked.input = some (.file content)) (hread : RouteFile.read content = .ok file)
    (hroute : file.route .greatCircle = .ok route) (htrace : route.trace .greatCircle 0 = .ok samples)
    (htotal : route.totalTime = .ok total) (hlarge : 2 ^ 63 ≤ total.toNat) :
    on (asked.run (Tree.host current environment)) t = (.error .durationTooLarge, t) := by
  have hisFile : t.isFileAt current asked.input = true := by rw [Tree.isFileAt, hfile]
  rw [on_run_of_isFileAt hisFile, on_bind, on_ofFile hfile hread hroute, hstart, timed_none htrace htotal,
    if_neg hlarge.not_gt]
  rfl

/-- When the variables can be loaded, a run is that of the command. -/
theorem on_run_of_load {args : List String} (hargs : ofArguments args = .ok (.trace asked))
    (hsettings : (on (Environment.load (Tree.host current environment)) t).1.isOk = true) :
    (Command.run (Tree.host current environment) args).run t
      = on (asked.run (Tree.host current environment)) t := by
  rw [run_trace hargs]
  cases hload : (on (Environment.load (Tree.host current environment)) t).1 with
  | error fault =>
      rw [hload] at hsettings
      cases hsettings
  | ok known => rfl

/-- When a variable cannot be set, the command is not run. -/
theorem on_run_of_unsettable {args : List String} (hargs : ofArguments args = .ok (.trace asked))
    (hsettings : (on (Environment.load (Tree.host current environment)) t).1.isOk = false) :
    (Command.run (Tree.host current environment) args).run t = (.error .unsettable, t) := by
  rw [run_trace hargs]
  cases hload : (on (Environment.load (Tree.host current environment)) t).1 with
  | ok known =>
      rw [hload] at hsettings
      cases hsettings
  | error fault =>
      obtain rfl : fault = .unsettable :=
        failsOnly_load_environment _ _ _ (Prod.ext hload rfl)
      rfl

/-- **The runs on a route file that can be traced, without departure.** When the variables of the settings can be
set and the total time has a duration for display, the samples with their times are delivered. A longer total time is
too large, and nothing is changed. When a variable cannot be set, this is the fault, and nothing is changed either. -/
theorem delivers_or_tooLarge_of_run {args : List String} {result : Except Fault String}
    (hargs : ofArguments args = .ok (.trace asked)) (hstart : asked.start = none) (hcurrent : t.IsFolder current)
    (hfile : t.find? current asked.input = some (.file content)) (hread : RouteFile.read content = .ok file)
    (hroute : file.route .greatCircle = .ok route) (htrace : route.trace .greatCircle 0 = .ok samples)
    (hrun : (Command.run (Tree.host current environment) args).run t = (result, after)) :
    ∃ total, route.totalTime = .ok total ∧
      ((on (Environment.load (Tree.host current environment)) t).1.isOk = true →
        (total.toNat < 2 ^ 63 → ∃ text node, IsDocument node text.toList ∧
          node.IsArrayOf Node.IsSample samples ∧ Delivers current asked text t result after) ∧
        (2 ^ 63 ≤ total.toNat → result = .error .durationTooLarge ∧ after = t)) ∧
      ((on (Environment.load (Tree.host current environment)) t).1.isOk = false →
        result = .error .unsettable ∧ after = t) := by
  obtain ⟨total, htotal⟩ := exists_totalTime_of_trace htrace
  refine ⟨total, htotal, fun hsettings => ⟨fun hsmall => ?_, fun hlarge => ?_⟩, fun hsettings => ?_⟩
  · rw [on_run_of_load hargs hsettings] at hrun
    have hisFile : t.isFileAt current asked.input = true := by rw [Tree.isFileAt, hfile]
    have htraced : on (ofFile (Tree.host current environment) asked asked.input) t
        = (.ok (traceJson (samples.map untimed)), t) := by
      rw [on_ofFile hfile hread hroute, hstart, timed_none htrace htotal, if_pos hsmall]
      rfl
    obtain ⟨node, hdocument, hsays⟩ := Json.exists_isDocument_pretty (traceJson (samples.map untimed))
    exact ⟨_, node, hdocument, isArrayOf_of_traceJson hsays, delivers_of_on_run hcurrent hisFile htraced hrun⟩
  · rw [on_run_of_load hargs hsettings,
      on_run_of_tooLarge hstart hfile hread hroute htrace htotal hlarge] at hrun
    obtain ⟨rfl, rfl⟩ := Prod.mk.inj hrun
    exact ⟨rfl, rfl⟩
  · rw [on_run_of_unsettable hargs hsettings] at hrun
    obtain ⟨rfl, rfl⟩ := Prod.mk.inj hrun
    exact ⟨rfl, rfl⟩

/-! ## A long stop -/

/-- A route file of a single point at which some time is spent. -/
def stop (duration : Milliseconds) : RouteFile :=
  ⟨[{ sign := 4, points := [[1, 0]], distance := some 1, time := duration }]⟩

/-- The text of the file. -/
def stopText (duration : Milliseconds) : String :=
  "\x7b\"instructions\":[\x7b\"sign\":4,\"points\":[[1,0]],\"distance\":1,\"time\":"
    ++ .ofList (digits duration.toNat) ++ "\x7d]\x7d"

/-- The tree in which nothing is but this file. -/
def stopTree (duration : Milliseconds) : Tree := .folder [("r.json", .file (stopText duration))]

/-- The request to print its trace. -/
def stopRequest : Trace := ⟨⟨"r.json"⟩, none, none⟩

/-- The arguments that make the request. -/
def stopArguments : List String := ["trace", "-i", "r.json"]

/-- The longest duration for display. -/
def longest : Milliseconds := 9223372036854775807

/-- One millisecond more is half of the clock. -/
def halfClock : Milliseconds := 9223372036854775808

theorem ofArguments_stop : ofArguments stopArguments = .ok (.trace stopRequest) := by
  with_unfolding_all rfl

theorem isOk_load_stop (duration : Milliseconds) :
    (on (Environment.load (Tree.host [] fun _ => none)) (stopTree duration)).1.isOk = true := rfl

theorem find?_stop (duration : Milliseconds) :
    (stopTree duration).find? [] stopRequest.input = some (.file (stopText duration)) := rfl

/-- What a text is read as can be told by evaluation. -/
theorem read_eq_ok_of_toOption {text : String} (h : (RouteFile.read text).toOption = some file) :
    RouteFile.read text = .ok file := by
  generalize RouteFile.read text = result at h
  cases result with
  | error fault => cases h
  | ok file' => exact congrArg Except.ok (Option.some.inj h)

/-- A file is traced in two steps. -/
theorem exists_trace_of_isOk (file : RouteFile) (calculator : Calculator)
    (h : (file.route calculator >>= (·.trace calculator 0)).isOk = true) :
    ∃ route samples, file.route calculator = .ok route ∧ route.trace calculator 0 = .ok samples := by
  cases htrace : file.route calculator >>= (·.trace calculator 0) with
  | error error =>
      rw [htrace] at h
      cases h
  | ok samples =>
      obtain ⟨route, hroute, hsamples⟩ := exists_of_bind_eq_ok htrace
      exact ⟨route, samples, hroute, hsamples⟩

theorem delivers_or_tooLarge_of_run_longest :
    ofArguments stopArguments = .ok (.trace stopRequest) ∧ stopRequest.start = none ∧
      (stopTree longest).IsFolder [] ∧
      (stopTree longest).find? [] stopRequest.input = some (.file (stopText longest)) ∧
      RouteFile.read (stopText longest) = .ok (stop longest) ∧
      ∃ route samples, (stop longest).route .greatCircle = .ok route ∧
        route.trace .greatCircle 0 = .ok samples ∧
        ∃ result after,
          (Command.run (Tree.host [] fun _ => none) stopArguments).run (stopTree longest) = (result, after) ∧
          (on (Environment.load (Tree.host [] fun _ => none)) (stopTree longest)).1.isOk = true ∧
          ∃ total, route.totalTime = .ok total ∧
            ((on (Environment.load (Tree.host [] fun _ => none)) (stopTree longest)).1.isOk = true →
              (total.toNat < 2 ^ 63 → ∃ text node, IsDocument node text.toList ∧
                node.IsArrayOf Node.IsSample samples ∧
                  Delivers [] stopRequest text (stopTree longest) result after) ∧
              (2 ^ 63 ≤ total.toNat → result = .error .durationTooLarge ∧ after = stopTree longest)) ∧
            ((on (Environment.load (Tree.host [] fun _ => none)) (stopTree longest)).1.isOk = false →
              result = .error .unsettable ∧ after = stopTree longest) := by
  have hread : RouteFile.read (stopText longest) = .ok (stop longest) :=
    read_eq_ok_of_toOption (by decide +kernel)
  obtain ⟨route, samples, hroute, htrace⟩ :=
    exists_trace_of_isOk (stop longest) .greatCircle (by decide +kernel)
  exact ⟨ofArguments_stop, rfl, ⟨_, rfl⟩, find?_stop longest, hread, route, samples, hroute, htrace, _, _, rfl,
    isOk_load_stop longest,
    delivers_or_tooLarge_of_run ofArguments_stop rfl ⟨_, rfl⟩ (find?_stop longest) hread hroute htrace rfl⟩

/-- **Not every route that can be traced is**: half of the clock at one point is too long for display. -/
theorem tooLarge_halfClock :
    ofArguments stopArguments = .ok (.trace stopRequest) ∧ stopRequest.start = none ∧
      RouteFile.read (stopText halfClock) = .ok (stop halfClock) ∧
      (∃ route samples, (stop halfClock).route .greatCircle = .ok route ∧
        route.trace .greatCircle 0 = .ok samples) ∧
      (Command.run (Tree.host [] fun _ => none) stopArguments).run (stopTree halfClock)
        = (.error .durationTooLarge, stopTree halfClock) := by
  have hread : RouteFile.read (stopText halfClock) = .ok (stop halfClock) :=
    read_eq_ok_of_toOption (by decide +kernel)
  have htotal : ((stop halfClock).route .greatCircle >>= (·.totalTime)).toOption = some halfClock := by
    decide +kernel
  obtain ⟨route, samples, hroute, htrace⟩ :=
    exists_trace_of_isOk (stop halfClock) .greatCircle (by decide +kernel)
  obtain ⟨total, hsum⟩ := exists_totalTime_of_trace htrace
  rw [hroute] at htotal
  change route.totalTime.toOption = some halfClock at htotal
  rw [hsum] at htotal
  obtain rfl : total = halfClock := Option.some.inj htotal
  refine ⟨ofArguments_stop, rfl, hread, ⟨route, samples, hroute, htrace⟩, ?_⟩
  rw [on_run_of_load ofArguments_stop (isOk_load_stop halfClock)]
  exact on_run_of_tooLarge rfl (find?_stop halfClock) hread hroute htrace hsum (by decide)

end Trace

end TurnByTurn.Command
