/-
  SpanPipeline.Proofs.Settings
  ────────────────────────────
  What a configuration leaves behind in logging.

  A configuration sets loggers one after the other.  A logger may be
  named several times, and the root under two names.  So what a
  logger ends with is what the last entry says that names it,
  whatever was set before, and a logger that no entry names keeps
  its settings.  Applying the same configuration again therefore
  changes nothing.

  A level whose name stands for something else stops all this at its
  entry.  The entries before it stay applied, and those after it are
  not looked at.

  Main results:
    * `settings_applyEntries_last`, `settings_applyEntries_other` —
      the last entry decides, and only named loggers change.
    * `configure_settles` — what a configuration leaves behind when
      it is applied.
    * `configure_stops_at_other_names` — when it is applied, and
      where it stops otherwise.
-/
import SpanPipeline.Config.Decode
import SpanPipeline.Logging

namespace SpanPipeline.Logging

open Text

/-! ## §1. Entries, one after the other. -/

/-- Set the logger that an entry names. -/
def applyEntry (s : Logging) (e : LoggerConfig) : Logging :=
  s.set (.ofText e.name) fun _ => ⟨levelOf e.level, e.propagate⟩

/-- Set the loggers that entries name, one after the other. -/
def applyEntries (s : Logging) (es : List LoggerConfig) : Logging := es.foldl applyEntry s

@[simp] theorem applyEntries_cons (s : Logging) (e : LoggerConfig) (es : List LoggerConfig) :
    s.applyEntries (e :: es) = (s.applyEntry e).applyEntries es := rfl

theorem applyEntries_append (s : Logging) (before after : List LoggerConfig) :
    s.applyEntries (before ++ after) = (s.applyEntries before).applyEntries after :=
  List.foldl_append

@[simp] theorem handlers_applyEntries (s : Logging) (es : List LoggerConfig) :
    (s.applyEntries es).handlers = s.handlers := by
  induction es generalizing s with
  | nil => rfl
  | cons e es ih => rw [applyEntries_cons, ih, applyEntry, set_handlers]

/-- Every level of the entries has a name that gives one. -/
def NameLevels (es : List LoggerConfig) : Prop := ∀ e ∈ es, e.level ∉ otherNames

instance (es : List LoggerConfig) : Decidable (NameLevels es) :=
  inferInstanceAs (Decidable (∀ e ∈ es, e.level ∉ otherNames))

/-- Entries whose levels are levels are applied. -/
theorem applyLoggers_append {before : List LoggerConfig} (h : NameLevels before) (s : Logging)
    (es : List LoggerConfig) :
    s.applyLoggers (before ++ es) = (s.applyEntries before).applyLoggers es := by
  induction before generalizing s with
  | nil => rfl
  | cons e before ih =>
    have he : e.level ∉ otherNames := h e List.mem_cons_self
    rw [List.cons_append, applyLoggers, resolve_of_not_mem he]
    exact ih (fun e' he' => h e' (List.mem_cons_of_mem e he')) _

theorem applyLoggers_of_nameLevels {es : List LoggerConfig} (h : NameLevels es) (s : Logging) :
    s.applyLoggers es = (s.applyEntries es, none) := by
  have happend := applyLoggers_append h s []
  rwa [List.append_nil] at happend

/-- The first level that is none stops the entries. -/
theorem applyLoggers_of_other {before : List LoggerConfig} {e : LoggerConfig}
    (h : NameLevels before) (he : e.level ∈ otherNames) (after : List LoggerConfig)
    (s : Logging) :
    ∃ f, resolve (s.applyEntries before).rootLevel e.level = .error f ∧
      s.applyLoggers (before ++ e :: after) = (s.applyEntries before, some f) := by
  obtain ⟨f, hf⟩ := resolve_eq_error he (s.applyEntries before).rootLevel
  refine ⟨f, hf, ?_⟩
  rw [applyLoggers_append h, applyLoggers, hf]

/-- Either all levels are levels, or there is a first one that is
    none. -/
theorem nameLevels_or_split (es : List LoggerConfig) :
    NameLevels es ∨ ∃ before e after, es = before ++ e :: after ∧ NameLevels before ∧
      e.level ∈ otherNames := by
  cases hfind : es.find? (fun e => decide (e.level ∈ otherNames)) with
  | none =>
    left
    intro e he
    simpa using List.find?_eq_none.mp hfind e he
  | some e =>
    right
    obtain ⟨hother, before, after, hsplit, hbefore⟩ := List.find?_eq_some_iff_append.mp hfind
    refine ⟨before, e, after, hsplit, ?_, of_decide_eq_true hother⟩
    intro e' he'
    simpa using hbefore e' he'

theorem applyLoggers_eq_none_iff (s : Logging) (es : List LoggerConfig) :
    (s.applyLoggers es).2 = none ↔ NameLevels es := by
  rcases nameLevels_or_split es with h | ⟨before, e, after, rfl, hbefore, hother⟩
  · exact iff_of_true (by rw [applyLoggers_of_nameLevels h]) h
  · obtain ⟨f, -, hf⟩ := applyLoggers_of_other hbefore hother after s
    refine iff_of_false (by rw [hf]; exact nofun) ?_
    intro h
    exact h e (by simp) hother

/-! ## §2. The last entry decides. -/

/-- A logger that no entry names keeps its settings. -/
theorem settings_applyEntries_other {es : List LoggerConfig} {n : LoggerName}
    (h : ∀ e ∈ es, LoggerName.ofText e.name ≠ n) (s : Logging) :
    (s.applyEntries es).settings n = s.settings n := by
  induction es generalizing s with
  | nil => rfl
  | cons e es ih =>
    have he : n ≠ LoggerName.ofText e.name := (h e List.mem_cons_self).symm
    rw [applyEntries_cons, ih fun e' he' => h e' (List.mem_cons_of_mem e he'), applyEntry,
      set_other _ _ he]

/-- **The last entry that names a logger decides** what it ends
    with. -/
theorem settings_applyEntries_last {before after : List LoggerConfig} {e : LoggerConfig}
    (h : ∀ e' ∈ after, LoggerName.ofText e'.name ≠ LoggerName.ofText e.name) (s : Logging) :
    (s.applyEntries (before ++ e :: after)).settings (.ofText e.name)
      = ⟨levelOf e.level, e.propagate⟩ := by
  rw [applyEntries_append, applyEntries_cons, settings_applyEntries_other h, applyEntry, set_self]

/-- A logger that is named ends the same, whatever it had before. -/
theorem settings_applyEntries_congr {es : List LoggerConfig} {n : LoggerName} {s t : Logging}
    (h : (∃ e ∈ es, LoggerName.ofText e.name = n) ∨ s.settings n = t.settings n) :
    (s.applyEntries es).settings n = (t.applyEntries es).settings n := by
  induction es generalizing s t with
  | nil =>
    rcases h with ⟨e, he, -⟩ | h
    · cases he
    · exact h
  | cons e es ih =>
    rw [applyEntries_cons, applyEntries_cons]
    apply ih
    -- the first entry makes the logger the same, or leaves it to the others
    by_cases hn : n = LoggerName.ofText e.name
    · right
      rw [hn, applyEntry, applyEntry, set_self, set_self]
    · rcases h with ⟨e', he', hname⟩ | h
      · rcases List.mem_cons.mp he' with rfl | he'
        · exact absurd hname.symm hn
        · exact .inl ⟨e', he', hname⟩
      · right
        rw [applyEntry, applyEntry, set_other _ _ hn, set_other _ _ hn, h]

/-- Of the entries that name a logger, one is the last. -/
theorem exists_last_entry {es : List LoggerConfig} {n : LoggerName}
    (h : ∃ e ∈ es, LoggerName.ofText e.name = n) :
    ∃ before last after, es = before ++ last :: after ∧ LoggerName.ofText last.name = n ∧
      ∀ e ∈ after, LoggerName.ofText e.name ≠ n := by
  induction es with
  | nil =>
    obtain ⟨e, he, -⟩ := h
    cases he
  | cons first es ih =>
    by_cases hlater : ∃ e ∈ es, LoggerName.ofText e.name = n
    · obtain ⟨before, last, after, rfl, hlast, hafter⟩ := ih hlater
      exact ⟨first :: before, last, after, rfl, hlast, hafter⟩
    · obtain ⟨e, he, hname⟩ := h
      rcases List.mem_cons.mp he with rfl | he
      · exact ⟨[], e, es, rfl, hname, fun e' he' hname' => hlater ⟨e', he', hname'⟩⟩
      · exact absurd ⟨e, he, hname⟩ hlater

/-! ## §3. What a configuration leaves behind. -/

/-- The root has two names, and every other text names a logger of its
    own. -/
theorem ofText_eq_root_iff {name : String} :
    LoggerName.ofText name = .root ↔ name = "" ∨ name = rootName := by
  unfold LoggerName.ofText
  split <;> simp_all

/-- Logging when the root is set and no other logger is. -/
def prepare (s : Logging) (c : Config) (layout : Layout) : Logging :=
  (s.clear.setLevel .root c.logLevel.severity).addHandler ⟨.stderr, layout⟩

@[simp] theorem handlers_prepare (s : Logging) (c : Config) (layout : Layout) :
    (s.prepare c layout).handlers = [⟨.stderr, layout⟩] := rfl

theorem settings_prepare_root (s : Logging) (c : Config) (layout : Layout) :
    (s.prepare c layout).settings .root
      = { s.settings .root with level := c.logLevel.severity } := rfl

theorem settings_prepare_other (s : Logging) (c : Config) (layout : Layout) {n : LoggerName}
    (h : n ≠ .root) : (s.prepare c layout).settings n = s.settings n := by
  show (s.clear.setLevel .root c.logLevel.severity).settings n = s.clear.settings n
  exact set_other _ _ h

theorem configure_of_layout {c : Config} {layout : Layout}
    (h : Layout.make? c.logFormat c.logDateFormat = some layout) (s : Logging) :
    s.configure c = (((s.prepare c layout).applyLoggers c.loggers).1,
      ((s.prepare c layout).applyLoggers c.loggers).2.map .level) := by
  rw [configure, h]
  rfl

/-- A configuration is applied when its format is one and its levels
    are. -/
theorem configure_eq_none_iff {s : Logging} {c : Config} :
    (s.configure c).2 = none ↔
      (∃ layout, Layout.make? c.logFormat c.logDateFormat = some layout) ∧
        NameLevels c.loggers := by
  cases hlayout : Layout.make? c.logFormat c.logDateFormat with
  | none => simp [configure, hlayout]
  | some layout =>
    rw [configure_of_layout hlayout, Option.map_eq_none_iff, applyLoggers_eq_none_iff]
    simp

theorem configure_of_nameLevels {c : Config} {layout : Layout}
    (h : Layout.make? c.logFormat c.logDateFormat = some layout) (hlevels : NameLevels c.loggers)
    (s : Logging) : s.configure c = ((s.prepare c layout).applyEntries c.loggers, none) := by
  rw [configure_of_layout h, applyLoggers_of_nameLevels hlevels]
  rfl

theorem eq_of_settings {s t : Logging} (hsettings : ∀ n, s.settings n = t.settings n)
    (hhandlers : s.handlers = t.handlers) : s = t := by
  obtain ⟨settings, handlers⟩ := s
  obtain rfl : settings = t.settings := funext hsettings
  obtain rfl : handlers = t.handlers := hhandlers
  rfl

/-- Applied again, a configuration changes nothing. -/
theorem prepare_applyEntries (s : Logging) (c : Config) (layout : Layout) :
    (((s.prepare c layout).applyEntries c.loggers).prepare c layout).applyEntries c.loggers
      = (s.prepare c layout).applyEntries c.loggers := by
  refine eq_of_settings (fun n => settings_applyEntries_congr ?_) (by simp)
  by_cases hnamed : ∃ e ∈ c.loggers, LoggerName.ofText e.name = n
  · exact .inl hnamed
  · -- what no entry names is as it was prepared the first time
    right
    have hkept : ((s.prepare c layout).applyEntries c.loggers).settings n
        = (s.prepare c layout).settings n :=
      settings_applyEntries_other (fun e he hname => hnamed ⟨e, he, hname⟩) _
    by_cases hroot : n = .root
    · subst hroot
      rw [settings_prepare_root, hkept, settings_prepare_root]
    · rw [settings_prepare_other _ _ _ hroot, hkept]

/-- **What a configuration leaves behind**, from the state `s` to the
    state `t`. -/
structure Settles (s : Logging) (c : Config) (t : Logging) : Prop where
  /-- There is one handler, with the configured layout. -/
  handler : ∃ layout, Layout.make? c.logFormat c.logDateFormat = some layout ∧
    t.handlers = [⟨.stderr, layout⟩]
  /-- Two names stand for the root, and no others do. -/
  root_names : ∀ name, LoggerName.ofText name = .root ↔ name = "" ∨ name = "root"
  /-- A logger that is named has the settings of the last entry that
      names it. -/
  last : ∀ before e after, c.loggers = before ++ e :: after →
    (∀ e' ∈ after, LoggerName.ofText e'.name ≠ LoggerName.ofText e.name) →
    resolve s.rootLevel e.level = .ok (levelOf e.level) ∧
      t.settings (.ofText e.name) = ⟨levelOf e.level, e.propagate⟩
  /-- The root that is not named has the configured level. -/
  root : (∀ e ∈ c.loggers, LoggerName.ofText e.name ≠ .root) →
    t.settings .root = { s.settings .root with level := c.logLevel.severity }
  /-- That level is the number that belongs to its name. -/
  number : (c.logLevel.name, c.logLevel.severity)
    ∈ [("DEBUG", 10), ("INFO", 20), ("WARNING", 30), ("ERROR", 40), ("CRITICAL", 50)]
  /-- Any other logger that is not named keeps its settings. -/
  other : ∀ n, n ≠ .root → (∀ e ∈ c.loggers, LoggerName.ofText e.name ≠ n) →
    t.settings n = s.settings n
  /-- Applying the configuration again changes nothing. -/
  again : t.configure c = (t, none)

/-- **A configuration settles logging**, whatever was set before, when
    it is applied. -/
theorem configure_settles {s : Logging} {c : Config} (h : (s.configure c).2 = none) :
    Settles s c (s.configure c).1 := by
  obtain ⟨⟨layout, hlayout⟩, hlevels⟩ := configure_eq_none_iff.mp h
  rw [configure_of_nameLevels hlayout hlevels]
  refine ⟨⟨layout, hlayout, by simp⟩, fun _ => ofText_eq_root_iff, ?_, ?_, ?_, ?_, ?_⟩
  · intro before e after hsplit hafter
    have he : e ∈ c.loggers := by
      rw [hsplit]
      exact List.mem_append_right before List.mem_cons_self
    refine ⟨resolve_of_not_mem (hlevels e he) _, ?_⟩
    rw [hsplit]
    exact settings_applyEntries_last hafter _
  · intro hroot
    rw [settings_applyEntries_other hroot, settings_prepare_root]
  · cases c.logLevel <;> decide
  · intro n hn hother
    rw [settings_applyEntries_other hother, settings_prepare_other _ _ _ hn]
  · rw [configure_of_nameLevels hlayout hlevels, prepare_applyEntries]

/-- Two handlers, and settings of their own for all loggers. -/
def busy : Logging where
  settings := fun _ => ⟨7, false⟩
  handlers := [⟨.stdout, .bare⟩, ⟨.stderr, .bare⟩]

/-- Two entries for one logger, and one under each name of the root. -/
def repetitive : Config :=
  { Config.default with
    loggers := [ ⟨"a", "DEBUG", false⟩, ⟨"", "ERROR", true⟩, ⟨"a", "WARN", true⟩,
      ⟨"root", "loud", false⟩ ] }

/-- Of two entries the later one counts, under either name of the
    root. -/
theorem configure_settles_repetitive :
    (busy.configure repetitive).2 = none ∧
    (busy.configure repetitive).1.settings (.named "a") = ⟨30, true⟩ ∧
    (busy.configure repetitive).1.settings .root = ⟨20, false⟩ ∧
    (busy.configure repetitive).1.settings (.named "b") = ⟨7, false⟩ ∧
    (busy.configure repetitive).1.handlers.length = 1 := by
  have happlied : (busy.configure repetitive).2 = none := by decide +kernel
  have hsettles := configure_settles happlied
  obtain ⟨layout, -, hhandlers⟩ := hsettles.handler
  refine ⟨happlied, ?_⟩
  generalize (busy.configure repetitive).1 = t at hsettles hhandlers ⊢
  refine ⟨?_, ?_, ?_, by rw [hhandlers]; rfl⟩
  · exact (hsettles.last [⟨"a", "DEBUG", false⟩, ⟨"", "ERROR", true⟩] ⟨"a", "WARN", true⟩
      [⟨"root", "loud", false⟩] rfl (by decide)).2
  · exact (hsettles.last [⟨"a", "DEBUG", false⟩, ⟨"", "ERROR", true⟩, ⟨"a", "WARN", true⟩]
      ⟨"root", "loud", false⟩ [] rfl (by decide)).2
  · exact hsettles.other (.named "b") (by decide) (by decide)

/-! ## §4. Levels that are none. -/

/-- No level has the name of a level in another letter case. -/
theorem lookup_levels_of_respelled {l : LogLevel} {name : String}
    (h : String.ofList (upper name.toList) = l.name) (hne : name ≠ l.name) :
    levels.lookup name = none := by
  rw [List.lookup_eq_none_iff]
  intro p hp
  have hupper : ∀ p ∈ levels, String.ofList (upper p.1.toList) = p.1 := by decide +kernel
  rw [bne_iff_ne]
  rintro rfl
  exact hne ((hupper p hp).symm.trans h)

theorem not_mem_switches_of_respelled {l : LogLevel} {name : String}
    (h : String.ofList (upper name.toList) = l.name) : name ∉ switches := by
  have hnone : ∀ l ∈ LogLevel.all, ∀ name ∈ switches,
      String.ofList (upper name.toList) ≠ l.name := by decide +kernel
  intro hmem
  exact hnone l (by cases l <;> decide) name hmem h

/-- The name of a level in another letter case gives the fallback
    level, where it gives one. -/
theorem levelOf_respelled {l : LogLevel} {name : String}
    (h : String.ofList (upper name.toList) = l.name) (hne : name ≠ l.name) :
    levelOf name = fallback := by
  have hswitch : ¬ switches.contains name = true := by
    rw [List.contains_iff_mem]
    exact not_mem_switches_of_respelled h
  rw [levelOf, lookup_levels_of_respelled h hne, Option.getD_none, if_neg hswitch]

/-- **When a configuration is applied**, given that its format is
    accepted. -/
structure Applies (s : Logging) (c : Config) : Prop where
  /-- It is when no level has the name of something else. -/
  completes : (s.configure c).2 = none ↔ NameLevels c.loggers
  /-- Then every entry is applied, or a later one for its logger. -/
  configured : (s.configure c).2 = none → ∀ e ∈ c.loggers, ∃ last ∈ c.loggers,
    LoggerName.ofText last.name = LoggerName.ofText e.name ∧
      (s.configure c).1.settings (.ofText e.name) = ⟨levelOf last.level, last.propagate⟩
  /-- Otherwise the first such level is at fault, and it is as if the
      entries ended before it. -/
  stops : ∀ before e after, c.loggers = before ++ e :: after → NameLevels before →
    e.level ∈ otherNames → ∃ f t, s.configure { c with loggers := before } = (t, none) ∧
      resolve t.rootLevel e.level = .error f ∧ s.configure c = (t, some (.level f))
  /-- The name of a level gives that level. -/
  named : ∀ l : LogLevel, l.name ∉ otherNames ∧ levelOf l.name = l.severity
  /-- Its lower case is the name of a function. -/
  lowered : ∀ l : LogLevel, String.ofList (lower l.name.toList) ∈ otherNames
  /-- Any other spelling of it in any letter case gives the fallback
      level, unless it too is the name of something else. -/
  respelled : ∀ (l : LogLevel) (name : String), String.ofList (upper name.toList) = l.name →
    name ≠ l.name → levelOf name = fallback

/-- **A configuration is applied unless a level has another name**, and
    otherwise it stops there. -/
theorem configure_stops_at_other_names {c : Config} {layout : Layout}
    (h : Layout.make? c.logFormat c.logDateFormat = some layout) (s : Logging) :
    Applies s c := by
  refine ⟨?_, ?_, ?_, ?_, ?_, fun _ _ => levelOf_respelled⟩
  · rw [configure_eq_none_iff]
    exact and_iff_right ⟨layout, h⟩
  · intro hnone e he
    have hlevels := (configure_eq_none_iff.mp hnone).2
    obtain ⟨before, last, after, hsplit, hname, hafter⟩ := exists_last_entry ⟨e, he, rfl⟩
    refine ⟨last, ?_, hname, ?_⟩
    · rw [hsplit]
      exact List.mem_append_right before List.mem_cons_self
    · rw [configure_of_nameLevels h hlevels, hsplit, ← hname]
      rw [← hname] at hafter
      exact settings_applyEntries_last hafter _
  · intro before e after hsplit hbefore hother
    obtain ⟨f, hf, hstop⟩ := applyLoggers_of_other hbefore hother after (s.prepare c layout)
    refine ⟨f, (s.prepare c layout).applyEntries before, ?_, hf, ?_⟩
    · exact configure_of_nameLevels (c := { c with loggers := before }) h hbefore s
    · rw [configure_of_layout h, hsplit, hstop]
      rfl
  · intro l
    exact ⟨(resolve_eq_ok_iff.mp (resolve_name 0 l)).1, levelOf_name l⟩
  · have hall : ∀ l ∈ LogLevel.all, String.ofList (lower l.name.toList) ∈ otherNames := by
      decide +kernel
    intro l
    exact hall l (by cases l <;> decide)

/-- Entries of which the last has a level that is the name of a
    function. -/
def interrupted : Config :=
  { repetitive with loggers := repetitive.loggers ++ [⟨"b", "debug", true⟩] }

/-- The entries before such a level are applied. -/
theorem configure_stops_at_debug :
    Layout.make? interrupted.logFormat interrupted.logDateFormat
      = some ⟨defaultLogFormat, defaultLogDateFormat⟩ ∧
    (busy.configure repetitive).2 = none ∧
    ∃ f, busy.configure interrupted = ((busy.configure repetitive).1, some (.level f)) := by
  have hlayout : Layout.make? interrupted.logFormat interrupted.logDateFormat
      = some ⟨defaultLogFormat, defaultLogDateFormat⟩ := by decide +kernel
  have happlies := configure_stops_at_other_names hlayout busy
  obtain ⟨f, t, ht, -, hstop⟩ := happlies.stops repetitive.loggers ⟨"b", "debug", true⟩ [] rfl
    (by decide +kernel) (by decide +kernel)
  have hbefore : busy.configure repetitive = (t, none) := ht
  rw [hbefore]
  exact ⟨hlayout, rfl, f, hstop⟩

/-- One logger of the given level. -/
def singleLogger (level : String) : Config :=
  { Config.default with loggers := [⟨"a", level, true⟩] }

/-- Data that give one logger the level `debug` are accepted, in which
    letter case a level may stand for the whole program.  Applying them
    fails, however, and `Debug` gives the fallback level. -/
theorem configure_refuses_lower_case :
    Decode.config [(.text "loggers",
      .list [.record [("name", .text "a"), ("level", .text "debug")]])]
      = .ok (singleLogger "debug") ∧
    Decode.config [(.text "log_level", .text "debug")]
      = .ok { Config.default with logLevel := .debug } ∧
    (initial.configure (singleLogger "debug")).2
      = some (.level (.object "<function debug at 0x?>")) ∧
    (initial.configure (singleLogger "debug")).1.settings (.named "a") = ⟨0, true⟩ ∧
    (initial.configure (singleLogger "Debug")).1.settings (.named "a") = ⟨20, true⟩ := by
  exact ⟨rfl, rfl, by decide +kernel, by decide +kernel, by decide +kernel⟩

end SpanPipeline.Logging
