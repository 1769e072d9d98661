import CaretQuery.Log.Journal
import Mathlib

/-! # Configurations within configurations

Logging may be configured again while a configuration is in force, as long as
each one is restored in its turn. Whatever happens in between, restoring brings
back the loggers as they were before the configuring, and closes its handlers
and no others.
-/
namespace CaretQuery.Log

/-! ## Balanced actions -/

/-- A record or the attempt to build a query, which leave the loggers alone. -/
def Action.IsIdle : Action → Prop
  | .record _ | .build _ => True
  | .configure _ | .restore | .restoreAgain => False

/-- Every configuring is restored, and nothing else is. What was restored last may be restored again
until something is configured; at the beginning this takes a restoring before it. -/
inductive Balanced : Bool → List Action → Prop
  | nil {restored : Bool} : Balanced restored []
  | idle {restored : Bool} {action : Action} {rest : List Action} (hidle : action.IsIdle)
      (hrest : Balanced restored rest) : Balanced restored (action :: rest)
  | again {rest : List Action} (hrest : Balanced true rest) :
      Balanced true (.restoreAgain :: rest)
  | bracket {restored : Bool} (settings : Settings) {body rest : List Action}
      (hbody : Balanced false body) (hrest : Balanced true rest) :
      Balanced restored (.configure settings :: (body ++ .restore :: rest))

/-- The beginning of balanced actions: every restoring has its configuring before it. -/
def Nested (actions : List Action) : Prop := ∃ rest, Balanced false (actions ++ rest)

/-- Balanced actions, then configurings that are still pending with balanced actions after each. -/
inductive Layered (restored : Bool) : List Action → Prop
  | balanced {actions : List Action} (h : Balanced restored actions) : Layered restored actions
  | pending {before body : List Action} (settings : Settings) (hbefore : Layered restored before)
      (hbody : Balanced false body) : Layered restored (before ++ .configure settings :: body)

theorem Layered.cons_idle {restored : Bool} {action : Action} {actions : List Action}
    (hidle : action.IsIdle) (h : Layered restored actions) :
    Layered restored (action :: actions) := by
  induction h with
  | balanced h => exact .balanced (.idle hidle h)
  | pending settings hbefore hbody ih => exact .pending settings ih hbody

theorem Layered.cons_again {actions : List Action} (h : Layered true actions) :
    Layered true (.restoreAgain :: actions) := by
  induction h with
  | balanced h => exact .balanced (.again h)
  | pending settings hbefore hbody ih => exact .pending settings ih hbody

theorem Layered.cons_bracket {restored : Bool} {settings : Settings} {body actions : List Action}
    (hbody : Balanced false body) (h : Layered true actions) :
    Layered restored (.configure settings :: (body ++ .restore :: actions)) := by
  induction h with
  | balanced h => exact .balanced (.bracket settings hbody h)
  | pending inner hbefore hinner ih => simpa using Layered.pending inner ih hinner

theorem Layered.cons_configure {restored : Bool} (settings : Settings) {actions : List Action}
    (h : Layered false actions) : Layered restored (.configure settings :: actions) := by
  induction h with
  | balanced h => exact .pending settings (.balanced .nil) h
  | pending inner hbefore hbody ih => exact .pending inner ih hbody

/-- Where balanced actions are cut, the configurings before the cut that are not yet restored are
pending. -/
theorem layered_of_balanced {restored : Bool} {actions before rest : List Action}
    (h : Balanced restored actions) (hcut : before ++ rest = actions) :
    Layered restored before := by
  induction h generalizing before rest with
  | nil =>
    obtain ⟨rfl, -⟩ := List.append_eq_nil_iff.1 hcut
    exact .balanced .nil
  | idle hidle hrest ih =>
    cases before with
    | nil => exact .balanced .nil
    | cons first before =>
      obtain ⟨rfl, htail⟩ := List.cons.inj hcut
      exact (ih htail).cons_idle hidle
  | again hrest ih =>
    cases before with
    | nil => exact .balanced .nil
    | cons first before =>
      obtain ⟨rfl, htail⟩ := List.cons.inj hcut
      exact (ih htail).cons_again
  | bracket settings hbody hrest ihbody ihrest =>
    cases before with
    | nil => exact .balanced .nil
    | cons first before =>
      obtain ⟨rfl, htail⟩ := List.cons.inj hcut
      -- The cut is within the body, or behind the restoring.
      rcases List.append_eq_append_iff.1 htail with ⟨inner, hinner, -⟩ | ⟨inner, rfl, hinner⟩
      · exact (ihbody hinner.symm).cons_configure settings
      · cases inner with
        | nil =>
          rw [List.append_nil]
          exact (ihbody (List.append_nil _)).cons_configure settings
        | cons second inner =>
          obtain ⟨rfl, hbehind⟩ := List.cons.inj hinner
          exact (ihrest hbehind.symm).cons_bracket hbody

theorem Nested.of_append {first second : List Action} (h : Nested (first ++ second)) :
    Nested first := by
  obtain ⟨rest, hbalanced⟩ := h
  exact ⟨second ++ rest, by rwa [← List.append_assoc]⟩

theorem Nested.layered {actions : List Action} (h : Nested actions) : Layered false actions := by
  obtain ⟨rest, hbalanced⟩ := h
  exact layered_of_balanced hbalanced rfl

/-- The configuring that the last action, a restoring, belongs to. -/
theorem exists_configure_of_balanced {restored : Bool} {actions inner : List Action}
    (h : Balanced restored actions) (hlast : inner ++ [.restore] = actions) :
    ∃ before settings body, inner = before ++ .configure settings :: body ∧
      Balanced false body := by
  induction h generalizing inner with
  | nil => simp at hlast
  | idle hidle hrest ih =>
    cases inner with
    | nil =>
      obtain ⟨rfl, -⟩ := List.cons.inj hlast
      cases hidle
    | cons first inner =>
      obtain ⟨rfl, htail⟩ := List.cons.inj hlast
      obtain ⟨before, settings, body, rfl, hbody⟩ := ih htail
      exact ⟨first :: before, settings, body, rfl, hbody⟩
  | again hrest ih =>
    cases inner with
    | nil => cases hlast
    | cons first inner =>
      obtain ⟨rfl, htail⟩ := List.cons.inj hlast
      obtain ⟨before, settings, body, rfl, hbody⟩ := ih htail
      exact ⟨.restoreAgain :: before, settings, body, rfl, hbody⟩
  | @bracket _ settings body rest hbody hrest ihbody ihrest =>
    cases inner with
    | nil => cases hlast
    | cons first inner =>
      obtain ⟨rfl, htail⟩ := List.cons.inj hlast
      rcases List.eq_nil_or_concat rest with rfl | ⟨others, last, rfl⟩
      · obtain ⟨rfl, -⟩ := List.append_inj' htail rfl
        exact ⟨[], settings, _, rfl, hbody⟩
      · -- The restoring belongs to a later configuring.
        rw [List.concat_eq_append, ← List.cons_append, ← List.append_assoc] at htail
        obtain ⟨rfl, hrestore⟩ := List.append_inj' htail rfl
        obtain ⟨before, inside, innermost, rfl, hinnermost⟩ :=
          @ihrest others (by rw [List.concat_eq_append, hrestore])
        exact ⟨.configure settings :: (body ++ .restore :: before), inside, innermost, by simp,
          hinnermost⟩

theorem Nested.exists_configure {inner : List Action} (h : Nested (inner ++ [.restore])) :
    ∃ before settings body, inner = before ++ .configure settings :: body ∧
      Balanced false body := by
  have hlayered := h.layered
  generalize hactions : inner ++ [Action.restore] = actions at hlayered
  cases hlayered with
  | balanced hbalanced => exact exists_configure_of_balanced hbalanced hactions
  | @pending outer inside settings hbefore hbody =>
    rcases List.eq_nil_or_concat inside with rfl | ⟨others, last, rfl⟩
    · cases (List.append_inj' hactions rfl).2
    · rw [List.concat_eq_append, ← List.cons_append, ← List.append_assoc] at hactions
      obtain ⟨rfl, hrestore⟩ := List.append_inj' hactions rfl
      have hlast : others ++ [Action.restore] = others.concat last := by
        rw [List.concat_eq_append, hrestore]
      obtain ⟨before, innermost, body, rfl, hinnermost⟩ := exists_configure_of_balanced hbody hlast
      exact ⟨outer ++ .configure settings :: before, innermost, body, by simp, hinnermost⟩

/-! ## Single actions -/

/-- The level is the least one among those of the handlers. -/
def LoggerState.HasLeastLevel (s : LoggerState) : Prop :=
  ∃ level, s.level = some level ∧ (∃ handler ∈ s.handlers, handler.level = level) ∧
    ∀ handler ∈ s.handlers, level ≤ handler.level

namespace Journal

variable {j k : Journal} {number : Nat}

/-- The numbers of the handlers in force and of the closed ones have been given out. -/
structure IsNumbered (j : Journal) : Prop where
  present : ∀ handler ∈ j.logger.handlers, handler.number < j.handlersMade
  closed : ∀ number ∈ j.closed, number < j.handlersMade

/-- Handlers that were made between two journals are in force in the second one, and only those. -/
structure Configures (j k : Journal) : Prop where
  made_le : j.handlersMade ≤ k.handlersMade
  mem_handlers : ∀ number, (∃ handler ∈ k.logger.handlers, handler.number = number) ↔
    j.handlersMade ≤ number ∧ number < k.handlersMade
  level : k.logger.HasLeastLevel
  propagate : k.logger.propagate = false
  closed : k.closed = j.closed

theorem exists_deliver_eq (r : Record) (j : Journal) (sink : Sink) :
    ∃ files stderr, deliver r j sink = { j with files, stderr } := by
  cases sink <;> exact ⟨_, _, rfl⟩

/-- A record changes nothing but what has been written. -/
theorem exists_log_eq (j : Journal) (r : Record) :
    ∃ files stderr, j.log r = { j with files, stderr } := by
  rw [log]
  induction sinksFor j.logger r generalizing j with
  | nil => exact ⟨_, _, rfl⟩
  | cons sink sinks ih =>
    obtain ⟨files, stderr, hdeliver⟩ := exists_deliver_eq r j sink
    rw [List.foldl_cons, hdeliver]
    exact ih _

theorem configures_install {level : Level} {sinks : List (Level × Sink)}
    (hleast : ∃ sink, (level, sink) ∈ sinks) (hle : ∀ entry ∈ sinks, level ≤ entry.1) :
    j.Configures (j.install level sinks) where
  made_le := Nat.le_add_right _ _
  mem_handlers number := by
    have hnumbers : (j.install level sinks).logger.handlers.map Handler.number =
        List.range' j.handlersMade sinks.length := List.ext_getElem (by simp [install])
      (by simp [install])
    rw [← List.mem_map, hnumbers, List.mem_range'_1]
    rfl
  level := by
    have hlevels : (j.install level sinks).logger.handlers.map Handler.level =
        sinks.map Prod.fst := List.ext_getElem (by simp [install]) (by simp [install])
    obtain ⟨sink, hsink⟩ := hleast
    refine ⟨level, rfl, List.mem_map.1 ?_, fun handler hhandler => ?_⟩
    · rw [hlevels]
      exact List.mem_map_of_mem hsink
    · have hmem := List.mem_map_of_mem hhandler (f := Handler.level)
      rw [hlevels] at hmem
      obtain ⟨entry, hentry, heq⟩ := List.mem_map.1 hmem
      exact heq ▸ hle entry hentry
  propagate := rfl
  closed := rfl

/-- What has been written does not matter. -/
theorem Configures.of_written {files : Files} {stderr : List String}
    (h : Configures { j with files, stderr } k) : j.Configures k :=
  ⟨h.made_le, h.mem_handlers, h.level, h.propagate, h.closed⟩

theorem configures_configure (j : Journal) (settings : Settings) :
    j.Configures (j.configure settings) := by
  have hstderr {files : Files} {stderr : List String} : j.Configures
      (({ j with files, stderr } : Journal).install (levelFor settings.verbosity)
        [(levelFor settings.verbosity, .stderr)]) :=
    .of_written (configures_install ⟨.stderr, List.mem_singleton.2 rfl⟩ (by simp [Level.le_refl]))
  rw [configure]
  cases settings.target with
  | none => exact hstderr
  | some path =>
    dsimp only
    cases openFile j.files path with
    | error fault => exact hstderr
    | ok files =>
      rw [levelFor_min_debug]
      exact .of_written (configures_install
        ⟨.file (files.absolute path), List.mem_cons_of_mem _ (List.mem_singleton.2 rfl)⟩
        (by simp [Level.le_refl, debug_le_levelFor]))

theorem IsNumbered.configures (hj : j.IsNumbered) (h : j.Configures k) : k.IsNumbered where
  present handler hhandler := ((h.mem_handlers _).1 ⟨handler, hhandler, rfl⟩).2
  closed number hnumber := by
    rw [h.closed] at hnumber
    exact (hj.closed number hnumber).trans_le h.made_le

/-- A journal with the loggers of an earlier one. What has been made in between is closed, and
nothing else. -/
structure ReturnsTo (j k : Journal) : Prop where
  logger : k.logger = j.logger
  made_le : j.handlersMade ≤ k.handlersMade
  mem_closed : ∀ number, number ∈ k.closed ↔
    number ∈ j.closed ∨ j.handlersMade ≤ number ∧ number < k.handlersMade

theorem ReturnsTo.refl (j : Journal) : j.ReturnsTo j := ⟨rfl, le_rfl, fun _ => by grind⟩

theorem ReturnsTo.trans {l : Journal} (h : j.ReturnsTo k) (h' : k.ReturnsTo l) : j.ReturnsTo l where
  logger := h'.logger.trans h.logger
  made_le := h.made_le.trans h'.made_le
  mem_closed number := by
    have hfirst := h.made_le
    have hsecond := h'.made_le
    rw [h'.mem_closed, h.mem_closed]
    grind

theorem IsNumbered.returnsTo (hj : j.IsNumbered) (h : j.ReturnsTo k) : k.IsNumbered where
  present handler hhandler := by
    rw [h.logger] at hhandler
    exact (hj.present handler hhandler).trans_le h.made_le
  closed number hnumber := by
    rcases (h.mem_closed number).1 hnumber with hold | hnew
    · exact (hj.closed number hold).trans_le h.made_le
    · exact hnew.2

theorem returnsTo_log (j : Journal) (r : Record) : j.ReturnsTo (j.log r) := by
  obtain ⟨files, stderr, hlog⟩ := exists_log_eq j r
  rw [hlog]
  exact ⟨rfl, le_rfl, (ReturnsTo.refl j).mem_closed⟩

/-- Restoring the loggers that are in force already closes nothing. -/
theorem restore_self (j : Journal) : j.restore j.logger = j := by
  have hdropped : j.logger.handlers.filter (fun handler => !j.logger.handlers.contains handler) =
      [] := by
    simp [List.filter_eq_nil_iff]
  rw [restore, hdropped]
  simp

/-- Restoring what was in force before a configuring, after a return to its outcome. -/
theorem returnsTo_restore {l : Journal} (hj : j.IsNumbered) (h : j.Configures k)
    (hreturns : k.ReturnsTo l) : j.ReturnsTo (l.restore j.logger) where
  logger := rfl
  made_le := h.made_le.trans hreturns.made_le
  mem_closed number := by
    have hfresh : l.logger.handlers.filter (fun handler => !j.logger.handlers.contains handler) =
        l.logger.handlers := by
      rw [List.filter_eq_self, hreturns.logger]
      intro handler hhandler
      have hnumber := ((h.mem_handlers _).1 ⟨handler, hhandler, rfl⟩).1
      have hnot : handler ∉ j.logger.handlers := fun hold =>
        Nat.not_lt.2 hnumber (hj.present handler hold)
      simpa using hnot
    have hfirst := h.made_le
    have hsecond := hreturns.made_le
    rw [restore, hfresh, hreturns.logger]
    simp only [List.mem_append, List.mem_map, h.mem_handlers, hreturns.mem_closed, h.closed]
    grind

end Journal

/-! ## Scripts -/

namespace Script

variable {s t : Script} {action : Action} {actions : List Action} {settings : Settings}

theorem run_append (s : Script) (first second : List Action) :
    s.run (first ++ second) = (s.run first).run second := List.foldl_append

theorem exists_act_of_isIdle (s : Script) (hidle : action.IsIdle) :
    ∃ k, s.act action = { s with journal := k } ∧ s.journal.ReturnsTo k := by
  cases action with
  | record r => exact ⟨_, rfl, Journal.returnsTo_log s.journal r⟩
  | build request =>
    rw [act]
    cases request.build with
    | error e => exact ⟨s.journal, rfl, .refl s.journal⟩
    | ok query => exact ⟨_, rfl, Journal.returnsTo_log s.journal (ofQuery query)⟩
  | _ => cases hidle

theorem act_restoreAgain (h : s.restored = some s.journal.logger) : s.act .restoreAgain = s := by
  rw [act, h]
  simp only [Journal.restore_self, ← h]

theorem handlersMade_act_restore (s : Script) :
    (s.act .restore).journal.handlersMade = s.journal.handlersMade := by
  rw [act]
  cases s.pending <;> rfl

/-- The end of a configuring whose loggers are in force again. -/
theorem act_restore (hs : s.journal.IsNumbered)
    (hreturns : (s.act (.configure settings)).journal.ReturnsTo t.journal)
    (hpending : t.pending = (s.act (.configure settings)).pending) :
    s.journal.ReturnsTo (t.act .restore).journal ∧ (t.act .restore).pending = s.pending ∧
      (t.act .restore).restored = some s.journal.logger := by
  have hact : t.act .restore =
      ⟨t.journal.restore s.journal.logger, s.pending, some s.journal.logger⟩ := by
    rw [act, hpending]
    rfl
  rw [hact]
  exact ⟨Journal.returnsTo_restore hs (Journal.configures_configure s.journal settings) hreturns,
    rfl, rfl⟩

/-- Balanced actions return to the loggers that they found. -/
theorem run_balanced {restored : Bool} (h : Balanced restored actions)
    (hs : s.journal.IsNumbered)
    (hrestored : restored = true → s.restored = some s.journal.logger) :
    s.journal.ReturnsTo (s.run actions).journal ∧ (s.run actions).pending = s.pending ∧
      (restored = true → (s.run actions).restored = some (s.run actions).journal.logger) := by
  induction h generalizing s with
  | nil => exact ⟨.refl s.journal, rfl, hrestored⟩
  | idle hidle hrest ih =>
    obtain ⟨k, hact, hreturns⟩ := exists_act_of_isIdle s hidle
    obtain ⟨hlater, hpending, hagain⟩ := @ih { s with journal := k } (hs.returnsTo hreturns)
      (by simpa [hreturns.logger] using hrestored)
    rw [run, List.foldl_cons, hact]
    exact ⟨hreturns.trans hlater, hpending, hagain⟩
  | again hrest ih =>
    rw [run, List.foldl_cons, act_restoreAgain (hrestored rfl)]
    exact ih hs hrestored
  | @bracket _ settings body rest hbody hrest ihbody ihrest =>
    have hstart := hs.configures (Journal.configures_configure s.journal settings)
    obtain ⟨hinside, hpending, -⟩ := @ihbody (s.act (.configure settings)) hstart nofun
    obtain ⟨hreturns, houter, hrestored⟩ := act_restore hs hinside hpending
    obtain ⟨hlater, hpending, hagain⟩ := ihrest (hs.returnsTo hreturns)
      fun _ => hrestored.trans (congrArg some hreturns.logger.symm)
    have hrun : s.run (.configure settings :: (body ++ .restore :: rest)) =
        (((s.act (.configure settings)).run body).act .restore).run rest :=
      run_append (s.act (.configure settings)) body (.restore :: rest)
    rw [hrun]
    exact ⟨hreturns.trans hlater, hpending.trans houter, fun _ => hagain rfl⟩

/-- Under pending configurings nothing is closed that was made before them. -/
theorem run_layered {restored : Bool} (h : Layered restored actions) (hs : s.journal.IsNumbered)
    (hrestored : restored = true → s.restored = some s.journal.logger) :
    (s.run actions).journal.IsNumbered ∧
      s.journal.handlersMade ≤ (s.run actions).journal.handlersMade ∧
      ∀ number ∈ (s.run actions).journal.closed,
        number ∈ s.journal.closed ∨ s.journal.handlersMade ≤ number := by
  induction h with
  | balanced h =>
    have hreturns := (run_balanced h hs hrestored).1
    refine ⟨hs.returnsTo hreturns, hreturns.made_le, fun number hnumber => ?_⟩
    exact ((hreturns.mem_closed number).1 hnumber).imp_right And.left
  | @pending before body settings hbefore hbody ih =>
    obtain ⟨houtside, hmade, hclosed⟩ := ih
    have hconfigures := Journal.configures_configure (s.run before).journal settings
    have hstart := houtside.configures hconfigures
    have hreturns := (@run_balanced ((s.run before).act (.configure settings)) body false
      hbody hstart nofun).1
    have hrun : s.run (before ++ .configure settings :: body) =
        ((s.run before).act (.configure settings)).run body :=
      run_append s before (.configure settings :: body)
    rw [hrun]
    refine ⟨hstart.returnsTo hreturns, hmade.trans (hconfigures.made_le.trans hreturns.made_le),
      fun number hnumber => ?_⟩
    rcases (hreturns.mem_closed number).1 hnumber with hold | hnew
    · rw [act, hconfigures.closed] at hold
      exact hclosed number hold
    · exact .inr (hmade.trans (hconfigures.made_le.trans hnew.1))

/-- Balanced actions after a configuring within nested actions. -/
theorem run_within {before body : List Action} (hs : s.journal.IsNumbered)
    (hbefore : Nested before) (settings : Settings) (hbody : Balanced false body) :
    (s.run before).journal.Configures ((s.run before).journal.configure settings) ∧
      (s.run before).journal.IsNumbered ∧
      ((s.run before).act (.configure settings)).journal.ReturnsTo
        (((s.run before).act (.configure settings)).run body).journal ∧
      (((s.run before).act (.configure settings)).run body).pending =
        ((s.run before).act (.configure settings)).pending := by
  have hconfigures := Journal.configures_configure (s.run before).journal settings
  have hnumbered := (run_layered hbefore.layered hs nofun).1
  obtain ⟨hreturns, hpending, -⟩ := @run_balanced ((s.run before).act (.configure settings)) body
    false hbody (hnumbered.configures hconfigures) nofun
  exact ⟨hconfigures, hnumbered, hreturns, hpending⟩

/-- At any moment of nested actions no handler of the beginning is closed, and
the loggers are those of the configuring that is pending last, with its handlers
still open. A restoring brings back what was in force before its configuring and
has closed the handlers of that; restoring once more changes nothing, until
something else is configured. -/
theorem run_nested (hs : s.journal.IsNumbered) (hnested : Nested actions) :
    (∀ handler ∈ s.journal.logger.handlers, handler.number ∉ s.journal.closed →
      handler.number ∉ (s.run actions).journal.closed) ∧
    (∀ before settings body, actions = before ++ .configure settings :: body →
      Balanced false body →
        let configured := (s.run before).journal.configure settings
        (s.run before).journal.Configures configured ∧
        (s.run actions).journal.logger = configured.logger ∧
        ∀ handler ∈ configured.logger.handlers,
          handler.number ∉ (s.run actions).journal.closed) ∧
    ∀ inner, actions = inner ++ [.restore] → ∃ before settings body,
      inner = before ++ .configure settings :: body ∧ Balanced false body ∧
      (s.run actions).journal.logger = (s.run before).journal.logger ∧
      (∀ handler ∈ ((s.run before).journal.configure settings).logger.handlers,
        handler.number ∈ (s.run actions).journal.closed) ∧
      ∀ later, Balanced true later →
        ((s.run actions).run later).act .restoreAgain = (s.run actions).run later := by
  refine ⟨?_, ?_, ?_⟩
  · intro handler hhandler hopen hclosed
    obtain ⟨-, -, hlate⟩ := run_layered hnested.layered hs nofun
    have hearly := hs.present handler hhandler
    rcases hlate _ hclosed with hold | hnew
    · exact hopen hold
    · omega
  · rintro before settings body rfl hbody configured
    obtain ⟨hconfigures, hnumbered, hreturns, -⟩ := run_within hs hnested.of_append settings hbody
    rw [run_append]
    refine ⟨hconfigures, hreturns.logger, fun handler hhandler hclosed => ?_⟩
    have hnumber := (hconfigures.mem_handlers _).1 ⟨handler, hhandler, rfl⟩
    rcases (hreturns.mem_closed _).1 hclosed with hold | hnew
    · rw [act, hconfigures.closed] at hold
      have hearly := hnumbered.closed _ hold
      omega
    · exact absurd hnumber.2 (Nat.not_lt.2 hnew.1)
  · rintro inner rfl
    obtain ⟨before, settings, body, rfl, hbody⟩ := hnested.exists_configure
    obtain ⟨hconfigures, hnumbered, hreturns, hpending⟩ :=
      run_within hs hnested.of_append.of_append settings hbody
    obtain ⟨hrestored, -, hagain⟩ := act_restore hnumbered hreturns hpending
    have hrun : s.run (before ++ .configure settings :: body ++ [.restore]) =
        (((s.run before).act (.configure settings)).run body).act .restore := by
      rw [run_append, run_append]
      rfl
    rw [hrun]
    refine ⟨before, settings, body, rfl, hbody, hrestored.logger, fun handler hhandler => ?_,
      fun later hlater => ?_⟩
    · have hnumber := (hconfigures.mem_handlers _).1 ⟨handler, hhandler, rfl⟩
      rw [hrestored.mem_closed, handlersMade_act_restore]
      exact .inr ⟨hnumber.1, hnumber.2.trans_le hreturns.made_le⟩
    · refine act_restoreAgain ((run_balanced hlater (hnumbered.returnsTo hrestored) ?_).2.2 rfl)
      exact fun _ => hagain.trans (congrArg some hrestored.logger.symm)

/-- After a second configuring has been restored the first one is in force again, with its log
file. At the beginning others had installed a handler. -/
theorem run_nested_inner :
    let s : Script := { journal := {
      clock := "12:00"
      logger := ⟨some ⟨15⟩, [⟨7, ⟨0⟩, .elsewhere⟩], true⟩
      handlersMade := 8 } }
    let outer : Settings := { verbosity := 1, file := some ⟨"", ["log"]⟩, fileEnabled := true }
    let body : List Action :=
      [.configure { verbosity := 2 }, .record ⟨.info, "nowquery.query", "built"⟩, .restore]
    s.journal.IsNumbered ∧ Nested (.configure outer :: body) ∧
      7 ∉ (s.run (.configure outer :: body)).journal.closed ∧
      (s.run (.configure outer :: body)).journal.logger = (s.journal.configure outer).logger := by
  intro s outer body
  have hs : s.journal.IsNumbered := ⟨by simp [s], by simp [s]⟩
  have hrecord : Action.IsIdle (.record ⟨.info, "nowquery.query", "built"⟩) := trivial
  have hbody : Balanced false body := .bracket { verbosity := 2 } (.idle hrecord .nil) .nil
  have hnested : Nested (.configure outer :: body) := ⟨[.restore], .bracket outer hbody .nil⟩
  obtain ⟨hopen, hwithin, -⟩ := run_nested hs hnested
  exact ⟨hs, hnested, hopen ⟨7, ⟨0⟩, .elsewhere⟩ (by simp [s]) (by simp [s]),
    (hwithin [] outer body rfl hbody).2.1⟩

end Script
end CaretQuery.Log
