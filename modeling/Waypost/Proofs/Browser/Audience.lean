import Waypost.Browser.Audience
import Waypost.Proofs.Browser.Run

/-!
# What an audience can do to the engine

* `Audience.Passive` : no listener submits an intent or goes back;
* `tellAll_quietOn` : telling a passive audience changes nothing but who is signed in, the journal
  and the audience;
* `tellAll_harmless` : telling any audience writes no path, however deep its reactions nest.
-/

namespace Waypost.Browser

open Access

/-- Whether a reaction calls back into the engine. -/
def Reaction.callsBack : Reaction → Bool
  | .submit .. | .goBack => true
  | .fail | .remove _ | .become _ => false

/-- Whether a listener may call back into the engine. -/
def Listener.callsBack (l : Listener) : Bool :=
  match l.role with
  | .note => false
  | .act _ reaction => reaction.callsBack

/-- No listener calls back into the engine. -/
def Audience.Passive (a : Audience) : Prop :=
  ∀ l ∈ a.listeners, l.callsBack = false

namespace Engine

/-! ## Passive audiences -/

theorem Aside.refl {ω : Type} {P : ω → Prop} {e : Engine ω} (h : P e.own) : Aside P e e :=
  ⟨e.own, e.journal, e.source, e.wallet, e.now, h, rfl⟩

theorem Aside.trans {ω : Type} {P : ω → Prop} {e₁ e₂ e₃ : Engine ω} (h₁ : Aside P e₁ e₂)
    (h₂ : Aside P e₂ e₃) :
    Aside P e₁ e₃ := by
  obtain ⟨own, journal, source, wallet, now, -, rfl⟩ := h₁
  obtain ⟨own', journal', source', wallet', now', hown, rfl⟩ := h₂
  exact ⟨own', journal', source', wallet', now', hown, rfl⟩

theorem Aside.own {ω : Type} {P : ω → Prop} {e e' : Engine ω} (h : Aside P e e') : P e'.own := by
  obtain ⟨own, journal, source, wallet, now, hown, rfl⟩ := h
  exact hown

theorem listenerFailed_aside {e : Engine Audience} (h : e.own.Passive) (event : Event)
    (kind : Fault.Kind) :
    Aside Audience.Passive e (e.listenerFailed event kind) :=
  ⟨e.own, _, e.source, e.wallet, e.now, h, rfl⟩

theorem passive_unsubscribe {a a' : Audience} {name : String} (h : a.Passive)
    (hdrop : a.unsubscribe name = .ok a') :
    a'.Passive := by
  unfold Audience.unsubscribe at hdrop
  split at hdrop
  · simp at hdrop
  · rw [← Except.ok.inj hdrop]
    intro l hl
    exact h l (List.mem_filter.mp hl).1

theorem passive_spend? {a a' : Audience} {id : Nat} (h : a.Passive)
    (hspend : a.spend? id = some a') : a'.Passive := by
  unfold Audience.spend? at hspend
  split at hspend
  · rw [← Option.some.inj hspend]
    exact h
  · simp at hspend

theorem aside_hears (e : Engine Audience) {own : Audience} (h : own.Passive) (what : Heard) :
    Aside Audience.Passive e { e with own := own.hears what } :=
  ⟨own.hears what, e.journal, e.source, e.wallet, e.now, h, rfl⟩

theorem react_aside (tell : Event → Engine Audience → Engine Audience) {e : Engine Audience}
    (h : e.own.Passive) (event : Event) {reaction : Reaction}
    (hreaction : reaction.callsBack = false) :
    Aside Audience.Passive e (e.react tell event reaction) := by
  cases reaction with
  | fail => exact listenerFailed_aside h event .runtime
  | submit path trigger => simp [Reaction.callsBack] at hreaction
  | remove name =>
    unfold react
    dsimp only
    split
    · exact listenerFailed_aside h event _
    · rename_i own hdrop
      exact ⟨own, e.journal, e.source, e.wallet, e.now, passive_unsubscribe h hdrop, rfl⟩
  | goBack => simp [Reaction.callsBack] at hreaction
  | become s =>
    unfold react become
    dsimp only
    split
    · exact ⟨e.own, e.journal, .given s, e.wallet, e.now, h, rfl⟩
    · exact Aside.refl h

theorem tellOne_aside (tell : Event → Engine Audience → Engine Audience) (event : Event)
    {e : Engine Audience} (h : e.own.Passive) {l : Listener} (hl : l.callsBack = false) :
    Aside Audience.Passive e (tellOne tell event e l) := by
  unfold tellOne
  unfold Listener.callsBack at hl
  split
  · exact aside_hears e h _
  · rename_i on reaction hrole
    rw [hrole] at hl
    split_ifs
    · split
      · exact Aside.refl h
      · rename_i own hspend
        have hheard := aside_hears e (passive_spend? h hspend) (.acted l.name event)
        exact hheard.trans (react_aside tell hheard.own event hl)
    · exact Aside.refl h

theorem foldl_tellOne_aside (tell : Event → Engine Audience → Engine Audience) (event : Event)
    (ls : List Listener) (e : Engine Audience) (h : e.own.Passive)
    (hls : ∀ l ∈ ls, l.callsBack = false) :
    Aside Audience.Passive e (ls.foldl (tellOne tell event) e) := by
  induction ls generalizing e with
  | nil => exact Aside.refl h
  | cons l ls ih =>
    have hone := tellOne_aside tell event h (hls l List.mem_cons_self)
    exact hone.trans (ih _ hone.own fun l' hl' => hls l' (List.mem_cons_of_mem l hl'))

/-- Passive audiences do not call back. -/
theorem tellAll_quietOn : QuietOn Audience.Passive tellAll :=
  fun event e h => foldl_tellOne_aside (tellFor e.own.budget) event e.own.listeners e h h

/-! ## All audiences -/

section Harmless

variable {tell : Event → Engine Audience → Engine Audience}

theorem react_harmless (htell : Harmless tell) (e : Engine Audience) (event : Event)
    (reaction : Reaction) :
    Untouched e (e.react tell event reaction) := by
  cases reaction with
  | fail => exact ⟨rfl, rfl⟩
  | submit path trigger => exact submit_harmless htell e path trigger false none
  | remove name =>
    unfold react
    dsimp only
    split
    · exact ⟨rfl, rfl⟩
    · exact ⟨rfl, rfl⟩
  | goBack => exact travel_harmless htell e .back
  | become s =>
    unfold react become
    dsimp only
    split
    · exact ⟨rfl, rfl⟩
    · exact ⟨rfl, rfl⟩

theorem tellOne_harmless (htell : Harmless tell) (event : Event) (e : Engine Audience)
    (l : Listener) : Untouched e (tellOne tell event e l) := by
  unfold tellOne
  split
  · exact ⟨rfl, rfl⟩
  · split_ifs
    · split
      · exact ⟨rfl, rfl⟩
      · exact react_harmless htell _ event _
    · exact ⟨rfl, rfl⟩

theorem foldl_tellOne_harmless (htell : Harmless tell) (event : Event) (ls : List Listener)
    (e : Engine Audience) :
    Untouched e (ls.foldl (tellOne tell event) e) := by
  induction ls generalizing e with
  | nil => exact ⟨rfl, rfl⟩
  | cons l ls ih => exact (tellOne_harmless htell event e l).trans (ih _)

theorem tellFor_harmless (depth : Nat) : Harmless (tellFor depth) := by
  induction depth with
  | zero => exact fun event e => ⟨rfl, rfl⟩
  | succ depth ih => exact fun event e => foldl_tellOne_harmless ih event e.own.listeners e

/-- No audience writes a path. -/
theorem tellAll_harmless : Harmless tellAll :=
  fun event e => tellFor_harmless (e.own.budget + 1) event e

end Harmless

end Engine

end Waypost.Browser
