/-
  SpanPipeline.Proofs.Handlers
  ────────────────────────────
  How many handlers there are while the program runs.

  Handlers come from three places.  A record of the root logger
  brings one along when there is none; a configuration removes them
  all, and adds one unless its format is refused; and a fault that
  finds none has logging set up for its report.  Each of these
  passes through states in between, which are listed here one by
  one.

  So a run that starts without handlers never has two, and it has
  one when a fault is reported, whichever phase failed.

  Main results:
    * `getLast?_points` — the states that a step passes through end
      in the state after it.
    * `handlers_points`, `handlers_along` — one step never adds a
      second handler, and no run does.
    * `handlers_before_error` — an error of the main program finds
      one handler.
    * `run_single_handler` — the handlers of a run that starts
      without any.
-/
import SpanPipeline.Proofs.Ending

namespace SpanPipeline

namespace Logging

open Text

/-! ## §1. The states in between. -/

/-- The states while handlers are removed, the first one first. -/
def removing (s : Logging) : List Handler → List Logging
  | [] => [s.clear]
  | h :: hs => { s with handlers := h :: hs } :: s.removing hs

/-- The states while loggers are set.  The level comes before the
    flag. -/
def applying (s : Logging) : List LoggerConfig → List Logging
  | [] => []
  | c :: cs =>
    match resolve s.rootLevel c.level with
    | .error _ => []
    | .ok level =>
      let settled := s.set (.ofText c.name) fun _ => ⟨level, c.propagate⟩
      s.setLevel (.ofText c.name) level :: settled :: settled.applying cs

/-- The states while a configuration is applied. -/
def configuring (s : Logging) (c : Config) : List Logging :=
  s.removing s.handlers ++
    match Layout.make? c.logFormat c.logDateFormat with
    | none => []
    | some layout =>
      let leveled := s.clear.setLevel .root c.logLevel.severity
      let handled := leveled.addHandler ⟨.stderr, layout⟩
      leveled :: handled :: handled.applying c.loggers

/-- The states while the loggers of libraries are quieted. -/
def quieting (s : Logging) : List String → List Logging
  | [] => []
  | name :: names =>
    let quieter := s.setLevel (.named name) warningLevel
    quieter :: quieter.quieting names

/-- The states while logging is set up. -/
def settingUp (s : Logging) (level : String) : List Logging :=
  s :: match resolve s.rootLevel (String.ofList (upper level.toList)) with
    | .error _ => []
    | .ok level =>
      let leveled := s.setLevel .root level
      let handled := leveled.addHandler ⟨.stdout, ⟨defaultLogFormat, defaultLogDateFormat⟩⟩
      leveled :: handled :: handled.quieting chattyLoggers

/-! ### They end in the state that comes of it. -/

theorem getLast?_removing (s : Logging) (hs : List Handler) :
    (s.removing hs).getLast? = some s.clear := by
  induction hs with
  | nil => rfl
  | cons h hs ih => rw [removing, List.getLast?_cons, ih, Option.getD_some]

theorem getLast?_applying (s : Logging) (cs : List LoggerConfig) :
    (s :: s.applying cs).getLast? = some (s.applyLoggers cs).1 := by
  induction cs generalizing s with
  | nil => rfl
  | cons c cs ih =>
    rw [applying, applyLoggers]
    cases resolve s.rootLevel c.level with
    | error f => rfl
    | ok level =>
      simp only [List.getLast?_cons_cons]
      exact ih _

theorem getLast?_configuring (s : Logging) (c : Config) :
    (s.configuring c).getLast? = some (s.configure c).1 := by
  rw [configuring, configure, List.getLast?_append]
  cases Layout.make? c.logFormat c.logDateFormat with
  | none => simp [getLast?_removing]
  | some layout =>
    simp only [List.getLast?_cons_cons]
    rw [getLast?_applying]
    rfl

theorem getLast?_quieting (s : Logging) (names : List String) :
    (s :: s.quieting names).getLast?
      = some (names.foldl (fun s name => s.setLevel (.named name) warningLevel) s) := by
  induction names generalizing s with
  | nil => rfl
  | cons name names ih =>
    rw [quieting, List.getLast?_cons_cons]
    exact ih _

theorem getLast?_settingUp (s : Logging) (level : String) :
    (s.settingUp level).getLast? = some (match s.setUp level with
      | .ok t => t
      | .error _ => s) := by
  unfold settingUp setUp
  cases resolve s.rootLevel (String.ofList (upper level.toList)) with
  | error f => rfl
  | ok l =>
    simp only [List.getLast?_cons_cons]
    exact getLast?_quieting _ _

/-! ### How many handlers they have. -/

theorem handlers_removing {s p : Logging} {hs : List Handler} (h : p ∈ s.removing hs) :
    p.handlers.length ≤ hs.length := by
  induction hs with
  | nil =>
    obtain rfl := List.mem_singleton.mp h
    exact Nat.le_refl 0
  | cons first hs ih =>
    rcases List.mem_cons.mp h with rfl | h
    · exact Nat.le_refl _
    · exact Nat.le_succ_of_le (ih h)

theorem handlers_applying {s p : Logging} {cs : List LoggerConfig} (h : p ∈ s.applying cs) :
    p.handlers = s.handlers := by
  induction cs generalizing s with
  | nil => cases h
  | cons c cs ih =>
    rw [applying] at h
    cases hlevel : resolve s.rootLevel c.level with
    | error f =>
      rw [hlevel] at h
      cases h
    | ok level =>
      rw [hlevel] at h
      rcases List.mem_cons.mp h with rfl | h
      · rfl
      · rcases List.mem_cons.mp h with rfl | h
        · rfl
        · rw [ih h, set_handlers]

theorem handlers_quieting {s p : Logging} {names : List String} (h : p ∈ s.quieting names) :
    p.handlers = s.handlers := by
  induction names generalizing s with
  | nil => cases h
  | cons name names ih =>
    rcases List.mem_cons.mp h with rfl | h
    · rfl
    · rw [ih h]
      rfl

/-- A configuration passes through no more handlers than there were,
    but for the one that it adds. -/
theorem handlers_configuring {s p : Logging} {c : Config} (hs : s.handlers.length ≤ 1)
    (h : p ∈ s.configuring c) : p.handlers.length ≤ 1 := by
  rcases List.mem_append.mp h with h | h
  · exact Nat.le_trans (handlers_removing h) hs
  · -- from here on there was none left
    cases hlayout : Layout.make? c.logFormat c.logDateFormat with
    | none =>
      rw [hlayout] at h
      cases h
    | some layout =>
      rw [hlayout] at h
      rcases List.mem_cons.mp h with rfl | h
      · exact Nat.zero_le 1
      · rcases List.mem_cons.mp h with rfl | h
        · exact Nat.le_refl 1
        · rw [handlers_applying h]
          exact Nat.le_refl 1

/-- Setting up adds one handler. -/
theorem handlers_settingUp {s p : Logging} {level : String} (hs : s.handlers = [])
    (h : p ∈ s.settingUp level) : p.handlers.length ≤ 1 := by
  have hempty : s.handlers.length = 0 := by rw [hs]; rfl
  rcases List.mem_cons.mp h with rfl | h
  · omega
  · cases hlevel : resolve s.rootLevel (String.ofList (upper level.toList)) with
    | error f =>
      rw [hlevel] at h
      cases h
    | ok l =>
      rw [hlevel] at h
      have hone : (s.handlers ++ [(⟨.stdout, ⟨defaultLogFormat, defaultLogDateFormat⟩⟩ :
          Handler)]).length ≤ 1 := by
        rw [List.length_append, hempty]
        exact Nat.le_refl 1
      rcases List.mem_cons.mp h with rfl | h
      · show s.handlers.length ≤ 1
        omega
      · rcases List.mem_cons.mp h with rfl | h
        · exact hone
        · rw [handlers_quieting h]
          exact hone

/-- Every level has a name with which logging can be set up. -/
theorem handlers_setUp (s : Logging) (l : LogLevel) :
    ∃ t, s.setUp l.name = .ok t ∧
      t.handlers = s.handlers ++ [⟨.stdout, ⟨defaultLogFormat, defaultLogDateFormat⟩⟩] := by
  have hupper : String.ofList (upper l.name.toList) = l.name := by cases l <;> decide +kernel
  rw [setUp, hupper, resolve_name]
  exact ⟨_, rfl, rfl⟩

/-- One handler writes a line at most once, and without a handler it
    is written at most once as well. -/
theorem length_write_le {s : Logging} (hs : s.handlers.length ≤ 1) (l : Line) :
    (s.write l).length ≤ 1 := by
  have hwrite (h : Handler) : (h.write l).length ≤ 1 := by
    unfold Handler.write
    split <;> simp
  have hlast : (lastResort l).length ≤ 1 := by
    unfold lastResort
    split <;> simp
  unfold write
  dsimp only
  split
  · exact Nat.zero_le 1
  · -- the line goes to the handlers, or to the last resort
    split
    · obtain ⟨settings, handlers⟩ := s
      match handlers, hs with
      | [], _ => exact Nat.zero_le 1
      | [h], _ => simpa using hwrite h
    · exact hlast

end Logging

namespace Program

open CommandLine (Options)

/-! ## §2. Steps. -/

/-- The states that logging passes through in a step, from the one
    before it to the one after it. -/
def Step.points (s : Logging) : Step → List Logging
  | .log r => [s, ready s r]
  | .setUp level => s.settingUp level.name
  | .configure c => s.configuring c

theorem getLast?_points (s : Logging) (t : Step) : (t.points s).getLast? = some (t.next s) := by
  cases t with
  | log r => rfl
  | setUp level => exact s.getLast?_settingUp level.name
  | configure c => exact s.getLast?_configuring c

/-- A step is admissible unless it sets up logging that has a
    handler. -/
def Step.Admissible (s : Logging) : Step → Prop
  | .setUp _ => s.handlers = []
  | _ => True

/-- **A step adds no second handler.** -/
theorem handlers_points {s p : Logging} {t : Step} (hs : s.handlers.length ≤ 1)
    (ht : t.Admissible s) (h : p ∈ t.points s) : p.handlers.length ≤ 1 := by
  cases t with
  | log r =>
    rcases List.mem_cons.mp h with rfl | h
    · exact hs
    · obtain rfl := List.mem_singleton.mp h
      unfold ready Logging.ensureHandler
      split
      · split
        · next hempty =>
          rw [List.isEmpty_iff] at hempty
          simp [Logging.addHandler, hempty]
        · exact hs
      · exact hs
  | setUp level => exact Logging.handlers_settingUp ht h
  | configure c => exact Logging.handlers_configuring hs h

theorem handlers_next {s : Logging} {t : Step} (hs : s.handlers.length ≤ 1)
    (ht : t.Admissible s) : (t.next s).handlers.length ≤ 1 :=
  handlers_points hs ht (List.mem_of_getLast? (getLast?_points s t))

/-! ## §3. Runs. -/

/-- Every step is admissible when it is its turn. -/
def Admissible (s : Logging) : List Step → Prop
  | [] => True
  | t :: ts => t.Admissible s ∧ Admissible (t.next s) ts

theorem admissible_append {s : Logging} {ts us : List Step} :
    Admissible s (ts ++ us) ↔ Admissible s ts ∧ Admissible (stateAfter s ts) us := by
  induction ts generalizing s with
  | nil => exact (iff_of_eq (true_and _)).symm
  | cons t ts ih =>
    rw [List.cons_append, Admissible, Admissible, ih, and_assoc, stateAfter_cons]

/-- **No run adds a second handler**, at whatever point. -/
theorem handlers_along {s : Logging} {ts : List Step} (hs : s.handlers.length ≤ 1)
    (hts : Admissible s ts) : ∀ p ∈ along Step.points s ts, p.handlers.length ≤ 1 := by
  induction ts generalizing s with
  | nil => exact nofun
  | cons t ts ih =>
    intro p hp
    rcases List.mem_append.mp hp with hp | hp
    · exact handlers_points hs hts.1 hp
    · exact ih (handlers_next hs hts.1) hts.2 p hp

theorem handlers_stateAfter {s : Logging} {ts : List Step} (hs : s.handlers.length ≤ 1)
    (hts : Admissible s ts) : (stateAfter s ts).handlers.length ≤ 1 := by
  induction ts generalizing s with
  | nil => exact hs
  | cons t ts ih => exact ih (handlers_next hs hts.1) hts.2

theorem admissible_of_no_setUp {s : Logging} {ts : List Step}
    (h : ∀ t ∈ ts, ∀ level, t ≠ .setUp level) : Admissible s ts := by
  induction ts generalizing s with
  | nil => trivial
  | cons t ts ih =>
    refine ⟨?_, ih fun u hu => h u (List.mem_cons_of_mem t hu)⟩
    cases t with
    | setUp level => exact absurd rfl (h (.setUp level) List.mem_cons_self level)
    | log r | configure c => trivial

theorem ne_setUp_of_mem_map_log {rs : List LogRecord} {t : Step} (h : t ∈ rs.map .log)
    (level : LogLevel) : t ≠ .setUp level := by
  obtain ⟨r, -, rfl⟩ := List.mem_map.mp h
  exact nofun

theorem ne_setUp_of_mem_applyAndTry {host : Host} {s : Logging} {o : Options} {c : Config}
    {t : Step} (h : t ∈ (applyAndTry host s o c).steps) (level : LogLevel) :
    t ≠ .setUp level := by
  unfold applyAndTry at h
  cases hlog : (s.configure c).2 with
  | some f =>
    rw [hlog] at h
    obtain rfl := List.mem_singleton.mp h
    exact nofun
  | none =>
    -- the configuration, the record that it was loaded, and the records of the trial
    rw [hlog] at h
    rcases List.mem_cons.mp h with rfl | h
    · exact nofun
    · rcases List.mem_cons.mp h with rfl | h
      · exact nofun
      · exact ne_setUp_of_mem_map_log h level

/-- Logging is not set up before a fault is reported. -/
theorem ne_setUp_of_mem_attempt {host : Host} {s : Logging} {o : Options} {t : Step}
    (h : t ∈ (attempt host s o).steps) (level : LogLevel) : t ≠ .setUp level := by
  cases hresult : (Config.load host o.config).1 with
  | error f =>
    rw [attempt_of_error hresult] at h
    exact ne_setUp_of_mem_map_log h level
  | ok c =>
    rw [attempt_of_ok hresult] at h
    rcases List.mem_append.mp h with h | h
    · exact ne_setUp_of_mem_map_log h level
    · exact ne_setUp_of_mem_applyAndTry h level

theorem admissible_provision (s : Logging) : Admissible s (provision s) := by
  unfold provision
  split
  · next h => exact ⟨List.isEmpty_iff.mp h, trivial⟩
  · trivial

/-- A report finds one handler where there was at most one. -/
theorem handlers_provision {s : Logging} (hs : s.handlers.length ≤ 1) :
    (stateAfter s (provision s)).handlers.length = 1 := by
  unfold provision
  cases hempty : s.handlers.isEmpty with
  | true =>
    rw [List.isEmpty_iff] at hempty
    obtain ⟨t, ht, hhandlers⟩ := s.handlers_setUp .error
    have hnext : (Step.setUp .error).next s = t := by rw [Step.next, ht]
    show ((Step.setUp .error).next s).handlers.length = 1
    rw [hnext, hhandlers, hempty]
    rfl
  | false =>
    show s.handlers.length = 1
    have hpos : 0 < s.handlers.length := by
      rw [List.length_pos_iff]
      exact List.isEmpty_eq_false_iff.mp hempty
    omega

theorem admissible_attempt (host : Host) (s : Logging) (o : Options) :
    Admissible s (attempt host s o).steps :=
  admissible_of_no_setUp fun _ ht level => ne_setUp_of_mem_attempt ht level

/-- A run sets up logging only where there is no handler. -/
theorem admissible_run (host : Host) (s : Logging) (o : Options) :
    Admissible s (run host s o).steps := by
  cases hfault : (attempt host s o).fault with
  | none =>
    rw [steps_of_no_fault hfault]
    exact admissible_attempt host s o
  | some f =>
    obtain ⟨steps, rfl, -, hsteps⟩ := steps_of_fault hfault
    rw [hsteps, admissible_append, admissible_append]
    exact ⟨⟨admissible_attempt host s o, admissible_provision _⟩,
      admissible_of_no_setUp fun _ ht level => ne_setUp_of_mem_map_log ht level⟩

/-- An error of the main program after errorless steps is one of the
    records that follow them. -/
theorem before_of_errorless {start before after : List Step} {r : LogRecord}
    {rs : List LogRecord} (hstart : Errorless start) (hr : r.isMainError = true)
    (h : start ++ rs.map .log = before ++ .log r :: after) :
    ∃ said : List LogRecord, before = start ++ said.map .log ∧ ∀ l ∈ said, l ∈ rs := by
  rcases List.append_eq_append_iff.mp h with ⟨between, hbefore, hrest⟩ | ⟨rest, hsplit, hrest⟩
  · obtain ⟨said, later, rfl, rfl, -⟩ := List.map_eq_append_iff.mp hrest
    exact ⟨said, hbefore, fun l hl => List.mem_append_left later hl⟩
  · cases rest with
    | nil =>
      refine ⟨[], ?_, nofun⟩
      rw [hsplit, List.append_nil, List.map_nil, List.append_nil]
    | cons t rest =>
      -- the error would be one of the errorless steps
      obtain ⟨rfl, -⟩ := List.cons.inj hrest
      have hmem : Step.log r ∈ start := by
        rw [hsplit]
        exact List.mem_append_right before List.mem_cons_self
      rw [hstart r hmem] at hr
      cases hr

/-! ## §4. The handlers of a run. -/

section Run

variable {host : Host} {s : Logging} {o : Options} (hs : s.handlers.length ≤ 1)
  {before after : List Step} {r : LogRecord}
  (hrun : (run host s o).steps = before ++ .log r :: after)
include hs hrun

/-- A run prints a record at most once. -/
theorem length_printed_le : ((Step.log r).printed host (stateAfter s before)).length ≤ 1 := by
  have hall := admissible_run host s o
  rw [hrun, admissible_append] at hall
  have hready : (ready (stateAfter s before) r).handlers.length ≤ 1 :=
    handlers_next (handlers_stateAfter hs hall.1) hall.2.1
  exact Logging.length_write_le hready _

/-- An error of the main program finds one handler. -/
theorem handlers_before_error (hr : r.isMainError = true) :
    (stateAfter s before).handlers.length = 1 := by
  cases hfault : (attempt host s o).fault with
  | none =>
    have hmem : Step.log r ∈ (attempt host s o).steps := by
      rw [← steps_of_no_fault hfault, hrun]
      exact List.mem_append_right before List.mem_cons_self
    rw [errorless_attempt host s o r hmem] at hr
    cases hr
  | some f =>
    obtain ⟨steps, hstart, hless, hsteps⟩ := steps_of_fault hfault
    obtain ⟨said, rfl, hsaid⟩ := before_of_errorless hless hr (hsteps.symm.trans hrun)
    -- what was said of the report before changed nothing
    rw [stateAfter_append,
      stateAfter_errors _ fun l hl => isMainError_of_mem_report (hsaid l hl), hstart,
      stateAfter_append]
    exact handlers_provision (handlers_stateAfter hs (admissible_attempt host s o))

end Run

/-- **The handlers of a run** from the state `s`. -/
structure Handled (host : Host) (s : Logging) (o : Options) : Prop where
  /-- At no point are there two. -/
  few : ∀ p ∈ along Step.points s (run host s o).steps, p.handlers.length ≤ 1
  /-- So no record is printed twice. -/
  once : ∀ before r after, (run host s o).steps = before ++ .log r :: after →
    ((Step.log r).printed host (stateAfter s before)).length ≤ 1
  /-- There is one whenever the main program logs an error. -/
  present : ∀ before r after, (run host s o).steps = before ++ .log r :: after →
    r.isMainError = true → (stateAfter s before).handlers.length = 1
  /-- It does so for every fault, at the end. -/
  reported : ∀ f, (run host s o).fault = some f →
    ∃ before, (run host s o).steps = before ++ (report f).map .log

/-- **A run that starts without handlers has at most one**, and it has
    one when it reports a fault. -/
theorem run_single_handler (host : Host) (o : Options) {s : Logging} (h : s.handlers = []) :
    Handled host s o := by
  have hnone : s.handlers.length ≤ 1 := by
    rw [h]
    exact Nat.zero_le 1
  refine ⟨handlers_along hnone (admissible_run host s o), ?_, ?_, ?_⟩
  · intro before r after hrun
    exact length_printed_le hnone hrun
  · intro before r after hrun hr
    exact handlers_before_error hnone hrun hr
  · intro f hf
    obtain ⟨steps, -, -, hsteps⟩ := steps_of_fault hf
    exact ⟨steps, hsteps⟩

/-- A file whose format of log lines has no field. -/
def fieldlessFile : List UInt8 := "log_format: x".toList.map fun c => UInt8.ofNat c.toNat

/-- That file alone. -/
def fieldlessHost : Host :=
  { Sample.host with files := (FileTree.directory [("a", .file fieldlessFile)]).files [] }

/-- There is no handler when this configuration fails, and there is
    one for the report. -/
theorem run_single_handler_fieldless :
    Logging.initial.handlers = [] ∧
    (stateAfter .initial
      (attempt fieldlessHost .initial { config := some "a" }).steps).handlers = [] ∧
    ∃ f before, (run fieldlessHost .initial { config := some "a" }).fault = some f ∧
      f.message = "Invalid format 'x' for '%' style" ∧
      (run fieldlessHost .initial { config := some "a" }).steps
        = before ++ [.log (unexpectedRecord f)] ∧
      (stateAfter .initial before).handlers.length = 1 := by
  have hempty : Logging.initial.handlers = [] := rfl
  have hhandled := run_single_handler fieldlessHost { config := some "a" } hempty
  have hmessage : (run fieldlessHost .initial { config := some "a" }).fault.map Fault.message
      = some "Invalid format 'x' for '%' style" := by decide +kernel
  have hsingle : (run fieldlessHost .initial { config := some "a" }).fault.bind Fault.messages?
      = none := by decide +kernel
  have hremoved : (stateAfter .initial
      (attempt fieldlessHost .initial { config := some "a" }).steps).handlers = [] := by
    decide +kernel
  obtain ⟨f, hf, hmessage⟩ := Option.map_eq_some_iff.mp hmessage
  rw [hf] at hsingle
  obtain ⟨before, hsteps⟩ := hhandled.reported f hf
  rw [report_of_no_messages hsingle] at hsteps
  exact ⟨hempty, hremoved, f, before, hf, hmessage, hsteps,
    hhandled.present before _ [] hsteps rfl⟩

end Program

end SpanPipeline
