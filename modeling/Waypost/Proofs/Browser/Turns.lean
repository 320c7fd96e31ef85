import Waypost.Proofs.Browser.Chronicle

/-!
# The life of an engine

An engine is started and closed, perhaps more than once, and the views that it has asked for come in
whenever they are done.

* `Turn`, `take`, `life` : what can happen to an engine in its life, and one such thing after
  another;
* `told` : the events of a life; `life_forget` : the life that they are taken from is the life
  itself.
-/

namespace Waypost.Browser

/-- What can happen to an engine in its life. A load ends with its data or its failure, or it is
given up and ends with nothing; this may come at any time, and whether or not the engine has asked
to give it up. -/
inductive Turn where
  | step (s : Step)
  | start
  | close
  | loaded (n : Nat) (result : Except Fault Json)
  | dropped (n : Nat)

/-- The engine goes on: it is neither started nor closed. -/
def Turn.goesOn : Turn → Bool
  | .start | .close => false
  | .step _ | .loaded .. | .dropped _ => true

namespace Engine

variable {ω : Type}

/-- Whether a load has begun and not ended. -/
def isLoading (e : Engine ω) (n : Nat) : Bool :=
  (e.loads[n]?).any fun l => !l.finished

/-- Carries out a turn. No load ends twice. -/
def take (tell : Event → Engine ω → Engine ω) (e : Engine ω) : Turn → Engine ω
  | .step s => (e.perform tell s).2
  | .start => e.start
  | .close => e.close
  | .loaded n result => if e.isLoading n then e.receive tell n result else e
  | .dropped n => e.markFinished n

/-- The engine after a list of turns. -/
def life (tell : Event → Engine ω → Engine ω) (e : Engine ω) (turns : List Turn) : Engine ω :=
  turns.foldl (take tell) e

/-- The events of a life, in order. Those that listeners cause by calling back are not among
them. -/
def told (tell : Event → Engine ω → Engine ω) (e : Engine ω) (turns : List Turn) : List Event :=
  (life (chronicled tell) e.enroll turns).own.2

theorem life_concat (tell : Event → Engine ω → Engine ω) (e : Engine ω) (turns : List Turn)
    (t : Turn) : life tell e (turns ++ [t]) = take tell (life tell e turns) t := by
  rw [life, List.foldl_append]
  rfl

/-- What the turns of one kind keep, a life of them keeps. -/
theorem life_keeps {tell : Event → Engine ω → Engine ω} {I : Engine ω → Prop} {K : Turn → Prop}
    (htake : ∀ e t, K t → I e → I (take tell e t)) {turns : List Turn} (hkind : ∀ t ∈ turns, K t)
    {e : Engine ω} (h : I e) :
    I (life tell e turns) :=
  List.foldlRecOn turns (take tell) h fun e he t ht => htake e t (hkind t ht) he

/-! ## Loads that end -/

theorem isLoading_iff {e : Engine ω} {n : Nat} :
    e.isLoading n ↔ ∃ l, e.loads[n]? = some l ∧ l.finished = false := by
  unfold isLoading
  cases e.loads[n]? with
  | none => simp
  | some l => simp

/-- What is told of a load that ends. -/
def viewEvent (i : Intent) : Except Fault Json → Event
  | .error f => .viewLoadFailed i f
  | .ok data => .viewLoaded i data

/-- A load that ends is told of if it is the latest. -/
theorem receive_cases (tell : Event → Engine ω → Engine ω) (e : Engine ω) {n : Nat} {l : Load}
    (hload : e.loads[n]? = some l) (result : Except Fault Json) :
    (l.intent.generation = e.loadGeneration ∧
        ∃ journal, e.receive tell n result =
          (tell (viewEvent l.intent result) { e with journal }).markFinished n) ∨
      ∃ journal, e.receive tell n result = { e with journal }.markFinished n := by
  unfold receive
  rw [hload]
  dsimp only
  by_cases hlatest : l.intent.generation = e.loadGeneration
  · left
    refine ⟨hlatest, ?_⟩
    cases result with
    | error f =>
      dsimp only
      rw [if_neg (not_not.mpr hlatest)]
      exact ⟨_, rfl⟩
    | ok data =>
      dsimp only
      rw [if_neg (not_not.mpr hlatest)]
      exact ⟨e.journal, rfl⟩
  · right
    cases result with
    | error f =>
      dsimp only
      rw [if_pos hlatest]
      exact ⟨_, rfl⟩
    | ok data =>
      dsimp only
      rw [if_pos hlatest]
      exact ⟨_, rfl⟩

/-! ## Without the list of events -/

variable (tell : Event → Engine ω → Engine ω) (e : Engine (ω × List Event))

theorem receive_forget (n : Nat) (result : Except Fault Json) :
    (e.receive (chronicled tell) n result).forget = e.forget.receive tell n result := by
  unfold receive
  rw [show e.forget.loads = e.loads from rfl]
  split
  · rfl
  · rename_i l hload
    dsimp only
    rw [show e.forget.loadGeneration = e.loadGeneration from rfl]
    cases result with
    | error f =>
      dsimp only
      split_ifs <;> rfl
    | ok data =>
      dsimp only
      split_ifs <;> rfl

theorem take_forget (t : Turn) : (take (chronicled tell) e t).forget = take tell e.forget t := by
  cases t with
  | step s => exact congrArg Prod.snd (perform_forget tell e s)
  | start =>
    rw [take, take, start, start, show e.forget.listening = e.listening from rfl]
    split_ifs <;> rfl
  | close => exact giveUpLoad_forget { e with listening := false }
  | loaded n result =>
    rw [take, take, show e.forget.isLoading n = e.isLoading n from rfl]
    split_ifs
    · exact receive_forget tell e n result
    · rfl
  | dropped n => rfl

theorem life_forget (turns : List Turn) :
    (life (chronicled tell) e turns).forget = life tell e.forget turns := by
  induction turns generalizing e with
  | nil => rfl
  | cons t turns ih =>
    rw [life, List.foldl_cons, life, List.foldl_cons, ← take_forget]
    exact ih _

/-- A life is the one that its events are taken from. -/
theorem life_eq_forget (e : Engine ω) (turns : List Turn) :
    life tell e turns = (life (chronicled tell) e.enroll turns).forget :=
  (life_forget tell e.enroll turns).symm

end Engine

end Waypost.Browser
