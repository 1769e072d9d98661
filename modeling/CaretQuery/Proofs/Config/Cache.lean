import CaretQuery.Config.Cache
import Mathlib

/-! # What a cache keeps

A cache is empty, or holds what a load of its path gave. It is filled by the
first load that succeeds and by nothing else, and from then on every answer
comes from it.
-/
namespace CaretQuery.Config

variable {env : Environment} {given : Option String} {files : Files} {path : Path}

theorem path_of_load {loaded : Loaded} (h : load files path = .ok loaded) : loaded.path = path := by
  rw [load] at h
  cases hpresent : files.isPresent path with
  | error fault => simp [hpresent] at h
  | ok present =>
    cases present with
    | false =>
      obtain rfl : ⟨path, false, none⟩ = loaded := by simpa [hpresent] using h
      rfl
    | true =>
      cases hread : files.read path with
      | error fault => simp [hpresent, hread] at h
      | ok content =>
        cases htable : tableOfContent content with
        | error fault => simp [hpresent, hread, htable, Except.map] at h
        | ok custom =>
          obtain rfl : ⟨path, true, custom⟩ = loaded := by
            simpa [hpresent, hread, htable, Except.map] using h
          rfl

namespace Cache

/-- The cache of a new context. -/
def new (env : Environment) (given : Option String) : Cache := ⟨configPath env given, none⟩

/-- The cache is empty, or holds a configuration of its path. -/
def IsKept (c : Cache) : Prop := ∀ loaded ∈ c.loaded, loaded.path = c.path

theorem load_of_loaded {c : Cache} {loaded : Loaded} (h : c.loaded = some loaded) (files : Files) :
    c.load files = .ok (loaded, []) := by
  simp [load, h]

theorem loaded_of_load_error {c : Cache} {fault : LoadFault} (h : c.load files = .error fault) :
    c.loaded = none := by
  cases hloaded : c.loaded with
  | none => rfl
  | some loaded => simp [load_of_loaded hloaded] at h

theorem IsKept.path_of_load {c : Cache} {loaded : Loaded} {records : List Log.Record}
    (hc : c.IsKept) (h : c.load files = .ok (loaded, records)) : loaded.path = c.path := by
  cases hloaded : c.loaded with
  | some kept =>
    obtain ⟨rfl, -⟩ : kept = loaded ∧ [] = records := by
      simpa [load_of_loaded hloaded] using h
    exact hc kept hloaded
  | none =>
    rw [load, hloaded] at h
    cases hload : Config.load files c.path with
    | error fault => simp [hload, Except.map] at h
    | ok fresh =>
      obtain ⟨rfl, -⟩ : fresh = loaded ∧ [fresh.record] = records := by
        simpa [hload, Except.map] using h
      exact Config.path_of_load hload

end Cache

/-! ## Steps -/

/-- The event asks for something that is in the loaded configuration. -/
def Event.isCall : Event → Bool
  | .askOperators | .askPresence => true
  | .write _ | .remove | .askPath | .renew => false

/-- The answer is the one that a loaded configuration gives, as far as the event asks for one. -/
def Event.AnsweredBy (loaded : Loaded) : Event → Answer → Prop
  | .askOperators, answer => answer = .operators loaded.operators.names
  | .askPresence, answer => answer = .presence loaded.isPresent
  | .askPath, answer => answer = .path loaded.path
  | _, _ => True

namespace RunState

/-- A new context on files. -/
def new (env : Environment) (given : Option String) (files : Files) : RunState :=
  ⟨files, .new env given⟩

/-- The state after a list of events. -/
def after (s : RunState) (events : List Event) : RunState :=
  events.foldl (fun s event => (s.step event).2) s

variable {s : RunState} {event : Event}

theorem ask_of_ok {loaded : Loaded} {records : List Log.Record} {answer : Loaded → Answer}
    (h : s.cache.load s.files = .ok (loaded, records)) :
    s.ask answer = (answer loaded, { s with cache := { s.cache with loaded := some loaded } }) := by
  simp [ask, Cache.afterLoad, h]

theorem ask_of_error {fault : LoadFault} {answer : Loaded → Answer}
    (h : s.cache.load s.files = .error fault) : s.ask answer = (.loadFault fault, s) := by
  simp [ask, h]

/-- A call that fails leaves everything as it is. -/
theorem step_of_error {fault : LoadFault} (hcall : event.isCall = true)
    (h : s.cache.load s.files = .error fault) : s.step event = (.loadFault fault, s) := by
  cases event with
  | askOperators => exact ask_of_error h
  | askPresence => exact ask_of_error h
  | _ => cases hcall

/-- A call that succeeds is answered by what is loaded, and keeps it. -/
theorem step_of_ok {loaded : Loaded} {records : List Log.Record} (hcall : event.isCall = true)
    (h : s.cache.load s.files = .ok (loaded, records)) :
    event.AnsweredBy loaded (s.step event).1 ∧
      (s.step event).2.cache = ⟨s.cache.path, some loaded⟩ := by
  cases event with
  | askOperators => exact ⟨congrArg Prod.fst (ask_of_ok h), congrArg (·.2.cache) (ask_of_ok h)⟩
  | askPresence => exact ⟨congrArg Prod.fst (ask_of_ok h), congrArg (·.2.cache) (ask_of_ok h)⟩
  | _ => cases hcall

theorem put_cache (content : Option String) : (s.put content).2.cache = s.cache := by
  rw [put]
  cases s.replaceFile content <;> rfl

/-- Whatever is no call leaves the cache as it is, unless a new one takes its place. -/
theorem step_cache_of_not_call (hcall : event.isCall = false) (hone : event ≠ .renew) :
    (s.step event).2.cache = s.cache := by
  cases event with
  | write content => exact put_cache (some content)
  | remove => exact put_cache none
  | askPath => rfl
  | renew => exact absurd rfl hone
  | _ => cases hcall

/-- A full cache answers everything and stays as it is. -/
theorem step_of_loaded {loaded : Loaded} (h : s.cache = ⟨loaded.path, some loaded⟩)
    (hone : event ≠ .renew) :
    event.AnsweredBy loaded (s.step event).1 ∧ (s.step event).2.cache = s.cache := by
  cases hcall : event.isCall with
  | true =>
    have hload := Cache.load_of_loaded (congrArg Cache.loaded h) s.files
    rw [h]
    simpa [h] using step_of_ok hcall hload
  | false =>
    refine ⟨?_, step_cache_of_not_call hcall hone⟩
    cases event with
    | askPath => simp [Event.AnsweredBy, step, h]
    | write content => trivial
    | remove => trivial
    | renew => trivial
    | _ => cases hcall

/-- Every step keeps the path, and a full cache holds a configuration of that path. -/
theorem step_isKept (event : Event) (h : s.cache.IsKept) :
    (s.step event).2.cache.path = s.cache.path ∧ (s.step event).2.cache.IsKept := by
  cases hcall : event.isCall with
  | true =>
    cases hload : s.cache.load s.files with
    | error fault =>
      rw [step_of_error hcall hload]
      exact ⟨rfl, h⟩
    | ok found =>
      obtain ⟨loaded, records⟩ := found
      rw [(step_of_ok hcall hload).2]
      refine ⟨rfl, ?_⟩
      rintro kept ⟨⟩
      exact h.path_of_load hload
  | false =>
    by_cases hone : event = .renew
    · subst hone
      exact ⟨rfl, by simp [step, Cache.IsKept]⟩
    · rw [step_cache_of_not_call hcall hone]
      exact ⟨rfl, h⟩

/-! ## Runs -/

theorem after_isKept (h : s.cache.IsKept) (events : List Event) :
    (s.after events).cache.path = s.cache.path ∧ (s.after events).cache.IsKept := by
  induction events generalizing s with
  | nil => exact ⟨rfl, h⟩
  | cons event events ih =>
    obtain ⟨hpath, hkept⟩ := step_isKept event h
    obtain ⟨hrest, hlast⟩ := ih hkept
    exact ⟨hrest.trans hpath, hlast⟩

/-- Once a configuration is kept, it answers the whole rest of the run. -/
theorem run_of_loaded {loaded : Loaded} {events : List Event}
    (h : s.cache = ⟨loaded.path, some loaded⟩) (hone : .renew ∉ events) :
    List.Forall₂ (Event.AnsweredBy loaded) events (s.run events) ∧
      (s.after events).cache = s.cache := by
  induction events generalizing s with
  | nil => exact ⟨.nil, rfl⟩
  | cons event events ih =>
    rw [List.mem_cons, not_or] at hone
    obtain ⟨hanswer, hcache⟩ := step_of_loaded h (Ne.symm hone.1)
    obtain ⟨hrest, hlast⟩ := ih (hcache.trans h) hone.2
    exact ⟨.cons hanswer hrest, hlast.trans hcache⟩

/-- Without a call a new context stays new. -/
theorem after_of_new {events : List Event} (h : s.cache = .new env given)
    (hcalls : ∀ event ∈ events, event.isCall = false) :
    s.after events = new env given (s.after events).files := by
  induction events generalizing s with
  | nil =>
    obtain ⟨files, cache⟩ := s
    obtain rfl : cache = .new env given := h
    rfl
  | cons event events ih =>
    rw [List.forall_mem_cons] at hcalls
    refine ih ?_ hcalls.2
    by_cases hone : event = .renew
    · subst hone
      exact congrArg (fun c => (⟨c.path, none⟩ : Cache)) h
    · rw [step_cache_of_not_call hcalls.1 hone, h]

/-- At any moment of a run the path is that of the environment, and to ask for
it changes nothing. A call that succeeds settles all answers of the rest of the
run, whatever happens to the files. A call that fails changes nothing, and as
long as there is no other call the context is a new one on the present files. -/
theorem context_consistent (before later changes : List Event) {call : Event}
    (hcall : call.isCall = true) (hlater : .renew ∉ later)
    (hchanges : ∀ event ∈ changes, event.isCall = false) :
    let s := (new env given files).after before
    s.step .askPath = (.path (configPath env given), s) ∧
      (∀ loaded records, s.cache.load s.files = .ok (loaded, records) →
        loaded.path = configPath env given ∧ call.AnsweredBy loaded (s.step call).1 ∧
        List.Forall₂ (Event.AnsweredBy loaded) later ((s.step call).2.run later) ∧
        ∀ files, ((s.step call).2.after later).cache.load files = .ok (loaded, [])) ∧
      ∀ fault, s.cache.load s.files = .error fault →
        s.step call = (.loadFault fault, s) ∧
        s.after changes = new env given (s.after changes).files := by
  intro s
  obtain ⟨hpath, hkept⟩ : s.cache.path = configPath env given ∧ s.cache.IsKept :=
    after_isKept (by rintro kept ⟨⟩) before
  refine ⟨by rw [step, hpath], ?_, ?_⟩
  · intro loaded records hload
    have hloaded := hkept.path_of_load hload
    obtain ⟨hanswer, hcache⟩ := step_of_ok hcall hload
    rw [← hloaded] at hcache
    obtain ⟨hanswers, hlast⟩ := run_of_loaded hcache hlater
    rw [hcache] at hlast
    exact ⟨hloaded.trans hpath, hanswer, hanswers,
      Cache.load_of_loaded (congrArg Cache.loaded hlast)⟩
  · intro fault hload
    refine ⟨step_of_error hcall hload, after_of_new ?_ hchanges⟩
    have hnone := Cache.loaded_of_load_error hload
    rw [Cache.new, ← hpath, ← hnone]

/-- A file that is no document, one that is, and its removal. -/
theorem context_consistent_removed :
    let s := (new {} (some "c.toml") {}).after [.write "[", .askOperators, .write "[operators]"]
    ∃ loaded, loaded.isPresent = true ∧
      List.Forall₂ (Event.AnsweredBy loaded) [.remove, .askPresence, .askPath]
        ((s.step .askOperators).2.run [.remove, .askPresence, .askPath]) := by
  intro s
  have hstate : s = ⟨⟨[("c.toml", .file (Text.Utf8.encode "[operators]"))], []⟩,
      ⟨⟨"", ["c.toml"]⟩, none⟩⟩ := by cbv
  have hfresh : load ⟨[("c.toml", .file (Text.Utf8.encode "[operators]"))], []⟩ ⟨"", ["c.toml"]⟩ =
      .ok ⟨⟨"", ["c.toml"]⟩, true, some .builtin⟩ := by cbv
  have hload : s.cache.load s.files = .ok (⟨⟨"", ["c.toml"]⟩, true, some .builtin⟩,
      [Loaded.record ⟨⟨"", ["c.toml"]⟩, true, some .builtin⟩]) := by
    simp only [hstate, Cache.load, hfresh, Except.map]
  obtain ⟨-, hsettled, -⟩ := @context_consistent {} (some "c.toml") {}
    [.write "[", .askOperators, .write "[operators]"] [.remove, .askPresence, .askPath] []
    .askOperators rfl (by simp) (by simp)
  exact ⟨_, rfl, (hsettled _ _ hload).2.2.1⟩

end RunState
end CaretQuery.Config
