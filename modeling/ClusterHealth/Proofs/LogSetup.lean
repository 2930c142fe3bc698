import ClusterHealth.Log.Root
import Mathlib.Data.List.Induction

namespace ClusterHealth

open ClusterHealth.Text

structure Setup where
  level : String
  rendering : Rendering
  force : Bool
deriving DecidableEq

namespace Setup

def apply (c : Setup) (r : LogRoot) : Except LogRoot.UnknownLevel Unit × LogRoot :=
  r.configure c.level c.rendering c.force

def number? (c : Setup) : Option Nat := LogRoot.levelNumber? (upper c.level)

def IsRefused (c : Setup) : Prop := ∀ r, ∃ e, (c.apply r).1 = .error e

def Sets (c : Setup) (n : Nat) : Prop := c.number? = some n ∧ ∀ r, (c.apply r).1 = .ok ()

def Installs (c : Setup) (cs : List Setup) : Prop :=
  ∃ before after, cs = before ++ c :: after ∧ (before = [] ∨ c.force = true) ∧
    ∀ d ∈ after, d.force = false

inductive LastLevel (cs : List Setup) : Nat → Prop
  | refused : (∀ c ∈ cs, c.IsRefused) → LastLevel cs LogLevel.warning.number
  | set : cs = before ++ c :: after → c.Sets n → (∀ d ∈ after, d.IsRefused) → LastLevel cs n

variable {c d : Setup} {cs : List Setup} {n : Nat}

theorem apply_of_number (h : c.number? = some n) (r : LogRoot) :
    c.apply r = (.ok (), { r.install c.rendering c.force with level := n }) := by
  rw [number?] at h
  simp [apply, LogRoot.configure, h]

theorem apply_of_refused (h : c.number? = none) (r : LogRoot) :
    c.apply r = (.error ⟨upper c.level⟩, r.install c.rendering c.force) := by
  rw [number?] at h
  simp [apply, LogRoot.configure, h]

theorem sets_of_number (h : c.number? = some n) : c.Sets n :=
  ⟨h, fun r => by rw [apply_of_number h]⟩

theorem isRefused_of_number (h : c.number? = none) : c.IsRefused :=
  fun r => ⟨_, by rw [apply_of_refused h]⟩

theorem handlers_install (r : LogRoot) (x : Rendering) (force : Bool) :
    (r.install x force).handlers = if force || r.handlers.isEmpty then [x] else r.handlers := by
  rw [LogRoot.install]
  split <;> rfl

theorem level_install (r : LogRoot) (x : Rendering) (force : Bool) :
    (r.install x force).level = r.level := by
  rw [LogRoot.install]
  split <;> rfl

theorem handlers_apply (c : Setup) (r : LogRoot) :
    (c.apply r).2.handlers =
      if c.force || r.handlers.isEmpty then [c.rendering] else r.handlers := by
  cases h : c.number? with
  | some n => rw [apply_of_number h, ← handlers_install]
  | none => rw [apply_of_refused h, handlers_install]

theorem installs_last (h : cs = [] ∨ c.force = true) : c.Installs (cs ++ [c]) :=
  ⟨cs, [], rfl, h, by simp⟩

theorem Installs.snoc (h : d.Installs cs) (hc : c.force = false) : d.Installs (cs ++ [c]) := by
  obtain ⟨before, after, rfl, hd, hafter⟩ := h
  refine ⟨before, after ++ [c], by simp, hd, ?_⟩
  simpa [or_imp, forall_and, hc] using hafter

theorem LastLevel.snoc (h : LastLevel cs n) (hc : c.IsRefused) : LastLevel (cs ++ [c]) n := by
  cases h with
  | refused hcs => exact .refused (by simpa [or_imp, forall_and, hc] using hcs)
  | @set before d after _ hcs hd hafter =>
    have happ : cs ++ [c] = before ++ d :: (after ++ [c]) := by simp [hcs]
    refine .set happ hd ?_
    simpa [or_imp, forall_and, hc] using hafter

end Setup

namespace LogRoot

variable {r : LogRoot} {cs : List Setup}

def after (r : LogRoot) (cs : List Setup) : LogRoot := cs.foldl (fun r c => (c.apply r).2) r

@[simp] theorem after_snoc (r : LogRoot) (cs : List Setup) (c : Setup) :
    r.after (cs ++ [c]) = (c.apply (r.after cs)).2 := by
  simp [after]

theorem exists_installs_after (h : cs ≠ []) :
    ∃ c : Setup, c.Installs cs ∧ (initial.after cs).handlers = [c.rendering] := by
  induction cs using List.reverseRecOn with
  | nil => exact absurd rfl h
  | append_singleton cs c ih =>
    rw [after_snoc, c.handlers_apply]
    by_cases hcs : cs = []
    · subst hcs
      exact ⟨c, Setup.installs_last (.inl rfl), if_pos (by simp [after, initial])⟩
    · obtain ⟨d, hd, hhandlers⟩ := ih hcs
      cases hc : c.force with
      | true => exact ⟨c, Setup.installs_last (.inr hc), rfl⟩
      | false => exact ⟨d, hd.snoc hc, by simp [hhandlers]⟩

theorem lastLevel_after (cs : List Setup) : Setup.LastLevel cs (initial.after cs).level := by
  induction cs using List.reverseRecOn with
  | nil => exact .refused (by simp)
  | append_singleton cs c ih =>
    rw [after_snoc]
    cases hn : c.number? with
    | some n =>
      rw [Setup.apply_of_number hn]
      exact .set rfl (Setup.sets_of_number hn) (by simp)
    | none =>
      rw [Setup.apply_of_refused hn, Setup.level_install]
      exact ih.snoc (Setup.isRefused_of_number hn)

theorem log_of_handler {x : Rendering} {message : String} {text : AnyText} {values : List Json}
    (h : r.handlers = [x]) (ht : Template.fill message values = some text) (s : Severity)
    (time : String) :
    r.log s message values time = if r.level ≤ s.number then [rendered s text time x] else [] := by
  simp only [log, ht, emit, admits, h]
  by_cases hs : r.level ≤ s.number <;> simp [hs]

structure Configured (cs : List Setup) (r : LogRoot) : Prop where
  level : Setup.LastLevel cs r.level
  handler : ∃ c : Setup, c.Installs cs ∧ r.handlers = [c.rendering] ∧
    ∀ s message values time text, Template.fill message values = some text →
      r.log s message values time =
        if r.level ≤ s.number then [rendered s text time c.rendering] else []

theorem configured_after (h : cs ≠ []) : Configured cs (initial.after cs) := by
  obtain ⟨c, hc, hhandlers⟩ := exists_installs_after h
  refine ⟨lastLevel_after cs, c, hc, hhandlers, ?_⟩
  intro s message values time text ht
  exact log_of_handler hhandlers ht s time

theorem configured_after_refusal :
    initial.after [⟨"loud", .object, false⟩, ⟨"info", .console, false⟩, ⟨"none", .console, true⟩] =
      ⟨20, [.console]⟩ ∧
    Configured [⟨"loud", .object, false⟩, ⟨"info", .console, false⟩, ⟨"none", .console, true⟩]
      ⟨20, [.console]⟩ := by
  have h : initial.after
      [⟨"loud", .object, false⟩, ⟨"info", .console, false⟩, ⟨"none", .console, true⟩] =
        ⟨20, [.console]⟩ := by decide +kernel
  exact ⟨h, h ▸ configured_after (by decide)⟩

end LogRoot

end ClusterHealth
