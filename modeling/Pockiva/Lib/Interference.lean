import Pockiva.Lib.Transition

/-! # Programs under interference

A program works on a state that others change between any two of its accesses, and
waits for inputs from outside.  `Ensures` says what a program ends with, when the others
keep to a relation `rely` and every access of its own keeps an invariant; it is proved
along the program (`Ensures.bind`).  A program that is run again and again keeps the
invariant for ever (`Served.invariant`).
-/
namespace Interference

open Transition

/-- A program on states `σ` with inputs `ι` that ends with a result. -/
inductive Program (σ ι α : Type) where
  | done (a : α)
  /-- Change the state, and go on with what it was before. -/
  | access (update : σ → σ) (next : σ → Program σ ι α)
  | receive (next : ι → Program σ ι α)

variable {σ ι α β : Type}

namespace Program

def bind : Program σ ι α → (α → Program σ ι β) → Program σ ι β
  | .done a, f => f a
  | .access update next, f => .access update fun s => (next s).bind f
  | .receive next, f => .receive fun i => (next i).bind f

instance : Monad (Program σ ι) where
  pure := .done
  bind := bind

/-- Read the state. -/
def read (f : σ → α) : Program σ ι α := .access id fun s => .done (f s)

def modify (f : σ → σ) : Program σ ι Unit := .access f fun _ => .done ()

/-- Change the state and read something of the new one. -/
def modifyRead (f : σ → σ) (g : σ → α) : Program σ ι α := .access f fun s => .done (g (f s))

def input : Program σ ι ι := .receive .done

end Program

/-- What a program may count on and has to keep. -/
structure Contract (σ ι : Type) where
  /-- What the others may do between two accesses. -/
  rely : σ → σ → Prop
  refl : ∀ s, rely s s
  trans : ∀ s t u, rely s t → rely t u → rely s u
  /-- What holds of the state at any time. -/
  invariant : σ → Prop
  /-- The inputs there can be. -/
  admits : ι → Prop

variable {C : Contract σ ι}

/-- An assertion the others do not touch. -/
def Contract.Stable (C : Contract σ ι) (P : σ → Prop) : Prop := ∀ s t, C.rely s t → P s → P t

/-- From a state like `s` the program keeps the invariant and ends with `Q`. -/
def Ensures (C : Contract σ ι) : Program σ ι α → (α → σ → Prop) → σ → Prop
  | .done a, Q, s => ∀ t, C.rely s t → C.invariant t → Q a t
  | .access update next, Q, s => ∀ t, C.rely s t → C.invariant t →
      C.invariant (update t) ∧ Ensures C (next t) Q (update t)
  | .receive next, Q, s => ∀ i, C.admits i → Ensures C (next i) Q s

namespace Ensures
variable {Q R : α → σ → Prop} {s t : σ}

/-- What the others do does not matter. -/
theorem stable {p : Program σ ι α} (h : Ensures C p Q s) (hrely : C.rely s t) :
    Ensures C p Q t := by
  induction p with
  | done a => exact fun u hu => h u (C.trans _ _ _ hrely hu)
  | access update next ih => exact fun u hu => h u (C.trans _ _ _ hrely hu)
  | receive next ih => exact fun i hi => ih i (h i hi)

theorem mono {p : Program σ ι α} (h : Ensures C p Q s)
    (hQ : ∀ a t, C.invariant t → Q a t → R a t) : Ensures C p R s := by
  induction p generalizing s with
  | done a => exact fun t ht hinv => hQ a t hinv (h t ht hinv)
  | access update next ih =>
    intro t ht hinv
    obtain ⟨hupdate, hnext⟩ := h t ht hinv
    exact ⟨hupdate, ih t hnext⟩
  | receive next ih => exact fun i hi => ih i (h i hi)

/-- **A program goes on from what its first part ends with.** -/
theorem bind {p : Program σ ι α} {f : α → Program σ ι β} {R : β → σ → Prop}
    (h : Ensures C p Q s) (hs : C.invariant s)
    (hf : ∀ a t, C.invariant t → Q a t → Ensures C (f a) R t) : Ensures C (p >>= f) R s := by
  induction p generalizing s with
  | done a => exact hf a s hs (h s (C.refl s) hs)
  | access update next ih =>
    intro t ht hinv
    obtain ⟨hupdate, hnext⟩ := h t ht hinv
    exact ⟨hupdate, ih t hnext hupdate⟩
  | receive next ih => exact fun i hi => ih i (h i hi) hs

theorem pure {a : α} (hQ : ∀ t, C.rely s t → C.invariant t → Q a t) :
    Ensures C (Pure.pure a) Q s := hQ

theorem read {f : σ → α} (hQ : ∀ t, C.rely s t → C.invariant t → ∀ u, C.rely t u →
    C.invariant u → Q (f t) u) : Ensures C (Program.read f) Q s :=
  fun t ht hinv => ⟨hinv, fun u hu hinv' => hQ t ht hinv u hu hinv'⟩

/-- What is read does not matter to an assertion that is stable. -/
theorem read_stable {f : σ → α} {P : σ → Prop} (hP : C.Stable P) (hs : P s) :
    Ensures C (Program.read f) (fun _ => P) s :=
  .read fun t ht _ u hu _ => hP t u hu (hP s t ht hs)

theorem modify {f : σ → σ} {Q : Unit → σ → Prop}
    (hinv : ∀ t, C.rely s t → C.invariant t → C.invariant (f t))
    (hQ : ∀ t, C.rely s t → C.invariant t → ∀ u, C.rely (f t) u → C.invariant u → Q () u) :
    Ensures C (Program.modify f) Q s :=
  fun t ht h => ⟨hinv t ht h, fun u hu h' => hQ t ht h u hu h'⟩

theorem modifyRead {f : σ → σ} {g : σ → α}
    (hinv : ∀ t, C.rely s t → C.invariant t → C.invariant (f t))
    (hQ : ∀ t, C.rely s t → C.invariant t → ∀ u, C.rely (f t) u → C.invariant u →
      Q (g (f t)) u) : Ensures C (Program.modifyRead f g) Q s :=
  fun t ht h => ⟨hinv t ht h, fun u hu h' => hQ t ht h u hu h'⟩

theorem input {Q : ι → σ → Prop}
    (hQ : ∀ i, C.admits i → ∀ t, C.rely s t → C.invariant t → Q i t) :
    Ensures C Program.input Q s := hQ

end Ensures

/-! ## A program that is served for ever -/

/-- A state and what is left of the program that works on it. -/
structure Served (σ ι : Type) where
  state : σ
  rest : Program σ ι Unit

/-- Who makes the next step. -/
inductive Turn where
  | program
  | others
deriving DecidableEq

/-- The program makes a step; when it has ended it begins again. -/
inductive ProgramStep (body : Program σ ι Unit) (admits : ι → Prop) :
    Served σ ι → Served σ ι → Prop where
  | access {s : σ} {update : σ → σ} {next : σ → Program σ ι Unit} :
      ProgramStep body admits ⟨s, .access update next⟩ ⟨update s, next s⟩
  | receive {s : σ} {next : ι → Program σ ι Unit} (i : ι) (hi : admits i) :
      ProgramStep body admits ⟨s, .receive next⟩ ⟨s, next i⟩
  | again {s : σ} : ProgramStep body admits ⟨s, .done ()⟩ ⟨s, body⟩

/-- The program among others, in any interleaving. -/
def served (start : σ → Prop) (body : Program σ ι Unit) (admits : ι → Prop)
    (others : σ → σ → Prop) : System (Served σ ι) Turn where
  start x := start x.state ∧ x.rest = .done ()
  step x turn y :=
    match turn with
    | .program => ProgramStep body admits x y
    | .others => others x.state y.state ∧ y.rest = x.rest

/-- **The invariant holds at any time**, and between two rounds what every round ends
with holds too. -/
theorem Served.invariant {start : σ → Prop} {body : Program σ ι Unit} {others : σ → σ → Prop}
    {J : σ → Prop} (hstart : ∀ s, start s → C.invariant s)
    (hready : ∀ s t, start s → C.rely s t → C.invariant t → J t)
    (hbody : ∀ s, C.invariant s → J s → Ensures C body (fun _ => J) s)
    (hothers : ∀ s t, C.invariant s → others s t → C.rely s t ∧ C.invariant t)
    {x : Served σ ι} (h : Reachable (served start body C.admits others) x) :
    C.invariant x.state ∧ Ensures C x.rest (fun _ => J) x.state := by
  refine h.invariant (P := fun x => C.invariant x.state ∧
    Ensures C x.rest (fun _ => J) x.state) ?_ ?_
  · rintro ⟨s, rest⟩ ⟨hs, rfl⟩
    exact ⟨hstart s hs, fun t ht hinv => hready s t hs ht hinv⟩
  · rintro x turn y ⟨hinv, hrest⟩ hstep
    cases turn with
    | program =>
      cases hstep with
      | access => exact hrest _ (C.refl _) hinv
      | receive i hi => exact ⟨hinv, hrest i hi⟩
      | again => exact ⟨hinv, hbody _ hinv (hrest _ (C.refl _) hinv)⟩
    | others =>
      obtain ⟨s, rest⟩ := x
      obtain ⟨t, rest'⟩ := y
      obtain ⟨hmove, rfl⟩ := hstep
      obtain ⟨hrely, hinv'⟩ := hothers s t hinv hmove
      exact ⟨hinv', hrest.stable hrely⟩

/-! ## The program alone -/

namespace Served

/-- The next step of the program, which takes `i` if it waits for an input. -/
def advance (body : Program σ ι Unit) (x : Served σ ι) (i : ι) : Served σ ι :=
  match x.rest with
  | .done _ => ⟨x.state, body⟩
  | .access update next => ⟨update x.state, next x.state⟩
  | .receive next => ⟨x.state, next i⟩

section Advance
variable {start : σ → Prop} {body : Program σ ι Unit} {admits : ι → Prop} {others : σ → σ → Prop}

theorem reachable_advance {x : Served σ ι} (h : Reachable (served start body admits others) x)
    {i : ι} (hi : admits i) :
    Reachable (served start body admits others) (x.advance body i) := by
  refine h.step (i := .program) ?_
  obtain ⟨s, rest⟩ := x
  cases rest with
  | done a => exact ProgramStep.again
  | access update next => exact ProgramStep.access
  | receive next => exact ProgramStep.receive i hi

/-- **The program runs alone** on inputs there can be. -/
theorem reachable_foldl {x : Served σ ι} (h : Reachable (served start body admits others) x)
    {inputs : List ι} (hinputs : ∀ i ∈ inputs, admits i) :
    Reachable (served start body admits others) (inputs.foldl (advance body) x) := by
  induction inputs generalizing x with
  | nil => exact h
  | cons i inputs ih =>
    obtain ⟨hi, hrest⟩ := List.forall_mem_cons.mp hinputs
    exact ih (reachable_advance h hi) hrest

end Advance

end Served

end Interference
