import Mathlib.Logic.Relation
import Mathlib.Logic.Function.Basic

set_option autoImplicit false

/-! Programs over the primitive operations of a shared store. A program is the
tree of operations it performs; other programs may act on the store between any
two of them. -/

/-- A program that returns, raises, or performs one operation and goes on with
its result. -/
inductive Program (Op : Type) (Res : Op → Type) (ε α : Type) : Type where
  | ret (value : α) : Program Op Res ε α
  | raise (error : ε) : Program Op Res ε α
  | call (op : Op) (next : Res op → Program Op Res ε α) : Program Op Res ε α

namespace Program

variable {Op : Type} {Res : Op → Type} {ε α β σ : Type}

def bind : Program Op Res ε α → (α → Program Op Res ε β) → Program Op Res ε β
  | .ret a, f => f a
  | .raise e, _ => .raise e
  | .call op next, f => .call op fun r => (next r).bind f

instance : Monad (Program Op Res ε) where
  pure := .ret
  bind := Program.bind

def perform (op : Op) : Program Op Res ε (Res op) := .call op .ret

/-- Continue with a computed value, or raise the error that was computed. -/
def lift : Except ε α → Program Op Res ε α
  | .ok a => .ret a
  | .error e => .raise e

/-- The same program, its result and its errors renamed. -/
def relabel {δ : Type} (onValue : α → β) (onError : ε → δ) :
    Program Op Res ε α → Program Op Res δ β
  | .ret a => .ret (onValue a)
  | .raise e => .raise (onError e)
  | .call op next => .call op fun r => (next r).relabel onValue onError

@[simp] theorem pure_eq (a : α) : (pure a : Program Op Res ε α) = .ret a := rfl

@[simp] theorem ret_bind (a : α) (f : α → Program Op Res ε β) :
    (Program.ret a : Program Op Res ε α) >>= f = f a := rfl

@[simp] theorem raise_bind (e : ε) (f : α → Program Op Res ε β) :
    (Program.raise e : Program Op Res ε α) >>= f = .raise e := rfl

@[simp] theorem call_bind (op : Op) (next : Res op → Program Op Res ε α)
    (f : α → Program Op Res ε β) :
    (Program.call op next) >>= f = .call op fun r => next r >>= f := rfl

@[simp] theorem perform_bind (op : Op) (f : Res op → Program Op Res ε β) :
    (perform op : Program Op Res ε (Res op)) >>= f = .call op f := rfl

@[simp] theorem lift_ok (a : α) : (lift (.ok a) : Program Op Res ε α) = .ret a := rfl

@[simp] theorem lift_error (e : ε) :
    (lift (.error e) : Program Op Res ε α) = .raise e := rfl

/-- Run a program on a store that nobody else touches. -/
def run (exec : (op : Op) → σ → Res op × σ) : Program Op Res ε α → σ → Except ε α × σ
  | .ret a, s => (.ok a, s)
  | .raise e, s => (.error e, s)
  | .call op next, s => (next (exec op s).1).run exec (exec op s).2

section Run

variable {exec : (op : Op) → σ → Res op × σ}

@[simp] theorem run_ret (a : α) (s : σ) :
    (Program.ret a : Program Op Res ε α).run exec s = (.ok a, s) := rfl

@[simp] theorem run_raise (e : ε) (s : σ) :
    (Program.raise e : Program Op Res ε α).run exec s = (.error e, s) := rfl

@[simp] theorem run_call (op : Op) (next : Res op → Program Op Res ε α) (s : σ) :
    (Program.call op next).run exec s = (next (exec op s).1).run exec (exec op s).2 := rfl

theorem run_bind (p : Program Op Res ε α) (f : α → Program Op Res ε β) (s : σ) :
    (p >>= f).run exec s =
      match p.run exec s with
      | (.ok a, s') => (f a).run exec s'
      | (.error e, s') => (.error e, s') := by
  induction p generalizing s with
  | ret a => rfl
  | raise e => rfl
  | call op next ih => exact ih (exec op s).1 (exec op s).2

/-- The stores that a run passes through: one of them is left when it is cut short. -/
def states (exec : (op : Op) → σ → Res op × σ) : Program Op Res ε α → σ → List σ
  | .ret _, s => [s]
  | .raise _, s => [s]
  | .call op next, s => s :: (next (exec op s).1).states exec (exec op s).2

@[simp] theorem states_ret (a : α) (s : σ) :
    (Program.ret a : Program Op Res ε α).states exec s = [s] := rfl

@[simp] theorem states_raise (e : ε) (s : σ) :
    (Program.raise e : Program Op Res ε α).states exec s = [s] := rfl

@[simp] theorem states_call (op : Op) (next : Res op → Program Op Res ε α) (s : σ) :
    (Program.call op next).states exec s =
      s :: (next (exec op s).1).states exec (exec op s).2 := rfl

theorem mem_states_self (p : Program Op Res ε α) (s : σ) : s ∈ p.states exec s := by
  cases p <;> simp

theorem mem_states_run (p : Program Op Res ε α) (s : σ) :
    (p.run exec s).2 ∈ p.states exec s := by
  induction p generalizing s with
  | ret a => simp
  | raise e => simp
  | call op next ih => exact List.mem_cons_of_mem _ (ih _ _)

theorem mem_states_bind {p : Program Op Res ε α} {f : α → Program Op Res ε β} {s t : σ} :
    t ∈ (p >>= f).states exec s ↔ t ∈ p.states exec s ∨
      ∃ a s', p.run exec s = (.ok a, s') ∧ t ∈ (f a).states exec s' := by
  induction p generalizing s with
  | ret a =>
      constructor
      · exact fun h => .inr ⟨a, s, rfl, h⟩
      · rintro (h | ⟨a', s', heq, h⟩)
        · rw [List.mem_singleton.1 h]
          exact mem_states_self _ _
        · cases heq
          exact h
  | raise e =>
      constructor
      · exact fun h => .inl h
      · rintro (h | ⟨a, s', heq, -⟩)
        · exact h
        · cases heq
  | call op next ih =>
      simp only [call_bind, states_call, List.mem_cons, run_call, ih, or_assoc]

end Run

/-- How the programs in several slots share a store: what the others may change
between the operations of one slot, and what each operation of a slot promises the
others. -/
structure Sharing (ι σ : Type) where
  rely : ι → σ → σ → Prop
  guarantee : ι → σ → σ → Prop
  rely_refl : ∀ i s, rely i s s
  rely_trans : ∀ {i s t u}, rely i s t → rely i t u → rely i s u

variable {ι : Type}

/-- Started in a slot from a store, and whatever the others do within the rely, the
program keeps its guarantee and ends with an outcome that meets the postcondition. -/
def Meets (exec : (op : Op) → σ → Res op × σ) (sharing : Sharing ι σ) (i : ι)
    (post : Except ε α → σ → Prop) : Program Op Res ε α → σ → Prop
  | .ret a, s => ∀ t, sharing.rely i s t → post (.ok a) t
  | .raise e, s => ∀ t, sharing.rely i s t → post (.error e) t
  | .call op next, s => ∀ t, sharing.rely i s t →
      sharing.guarantee i t (exec op t).2 ∧
        Meets exec sharing i post (next (exec op t).1) (exec op t).2

section Meets

variable {exec : (op : Op) → σ → Res op × σ} {sharing : Sharing ι σ} {i : ι}
  {post : Except ε α → σ → Prop}

theorem Meets.rely {p : Program Op Res ε α} {s t : σ} (h : p.Meets exec sharing i post s)
    (hrely : sharing.rely i s t) : p.Meets exec sharing i post t := by
  cases p with
  | ret a => exact fun u hu => h u (sharing.rely_trans hrely hu)
  | raise e => exact fun u hu => h u (sharing.rely_trans hrely hu)
  | call op next => exact fun u hu => h u (sharing.rely_trans hrely hu)

theorem Meets.advance {op : Op} {next : Res op → Program Op Res ε α} {s : σ}
    (h : (Program.call op next).Meets exec sharing i post s) :
    sharing.guarantee i s (exec op s).2 ∧
      (next (exec op s).1).Meets exec sharing i post (exec op s).2 :=
  h s (sharing.rely_refl i s)

theorem Meets.run {p : Program Op Res ε α} {s : σ} (h : p.Meets exec sharing i post s) :
    post (p.run exec s).1 (p.run exec s).2 := by
  induction p generalizing s with
  | ret a => exact h s (sharing.rely_refl i s)
  | raise e => exact h s (sharing.rely_refl i s)
  | call op next ih => exact ih _ h.advance.2

theorem Meets.mono {post' : Except ε α → σ → Prop} {p : Program Op Res ε α} {s : σ}
    (h : p.Meets exec sharing i post s) (himp : ∀ outcome t, post outcome t → post' outcome t) :
    p.Meets exec sharing i post' s := by
  induction p generalizing s with
  | ret a => exact fun t ht => himp _ _ (h t ht)
  | raise e => exact fun t ht => himp _ _ (h t ht)
  | call op next ih => exact fun t ht => ⟨(h t ht).1, ih _ (h t ht).2⟩

theorem Meets.and {post' : Except ε α → σ → Prop} {p : Program Op Res ε α} {s : σ}
    (h : p.Meets exec sharing i post s) (h' : p.Meets exec sharing i post' s) :
    p.Meets exec sharing i (fun outcome t => post outcome t ∧ post' outcome t) s := by
  induction p generalizing s with
  | ret a => exact fun t ht => ⟨h t ht, h' t ht⟩
  | raise e => exact fun t ht => ⟨h t ht, h' t ht⟩
  | call op next ih => exact fun t ht => ⟨(h t ht).1, ih _ (h t ht).2 (h' t ht).2⟩

theorem Meets.relabel {δ : Type} {post : Except δ β → σ → Prop} {onValue : α → β}
    {onError : ε → δ} {p : Program Op Res ε α} {s : σ}
    (h : p.Meets exec sharing i
      (fun outcome t => post ((outcome.map onValue).mapError onError) t) s) :
    (p.relabel onValue onError).Meets exec sharing i post s := by
  induction p generalizing s with
  | ret a => exact h
  | raise e => exact h
  | call op next ih => exact fun t ht => ⟨(h t ht).1, ih _ (h t ht).2⟩

theorem Meets.bind {mid : α → σ → Prop} {post : Except ε β → σ → Prop}
    {p : Program Op Res ε α} {f : α → Program Op Res ε β} {s : σ}
    (h : p.Meets exec sharing i
      (fun outcome t => match outcome with
        | .ok a => mid a t
        | .error e => post (.error e) t) s)
    (hnext : ∀ a t, mid a t → (f a).Meets exec sharing i post t) :
    (p >>= f).Meets exec sharing i post s := by
  induction p generalizing s with
  | ret a => exact hnext a s (h s (sharing.rely_refl i s))
  | raise e => exact h
  | call op next ih => exact fun t ht => ⟨(h t ht).1, ih _ (h t ht).2⟩

end Meets

section Pool

variable {ι κ ρ : Type} [DecidableEq ι]

/-- A request being served: the store it found, and what is left of its program. -/
structure Session (ρ : Type) (Op : Type) (Res : Op → Type) (ε α σ : Type) where
  request : ρ
  start : σ
  program : Program Op Res ε α

/-- What a slot hands over when its program has ended. -/
structure Handover (ι ρ ε α σ : Type) where
  slot : ι
  request : ρ
  start : σ
  outcome : Except ε α

/-- Programs that share a store, at most one in each slot. -/
structure Pool (ι ρ : Type) (Op : Type) (Res : Op → Type) (ε α σ : Type) where
  shared : σ
  slot : ι → Option (Session ρ Op Res ε α σ)

def Pool.idle (shared : σ) : Pool ι ρ Op Res ε α σ := ⟨shared, fun _ => none⟩

/-- What may happen next: a request is taken up by a free slot, a slot performs
its next operation or hands over its outcome, or the program in a slot dies. -/
inductive Act (ι ρ : Type) where
  | start (i : ι) (request : ρ)
  | advance (i : ι)
  | crash (i : ι)

/-- One act, with the answer when it hands one over. An act that is not possible
changes nothing. -/
def Pool.step (exec : (op : Op) → σ → Res op × σ) (body : ρ → Program Op Res ε α)
    (pool : Pool ι ρ Op Res ε α σ) :
    Act ι ρ → Option (Handover ι ρ ε α σ) × Pool ι ρ Op Res ε α σ
  | .start i request =>
      match pool.slot i with
      | none => (none, { pool with
          slot := Function.update pool.slot i (some ⟨request, pool.shared, body request⟩) })
      | some _ => (none, pool)
  | .advance i =>
      match pool.slot i with
      | none => (none, pool)
      | some ⟨request, start, .ret a⟩ =>
          (some ⟨i, request, start, .ok a⟩,
            { pool with slot := Function.update pool.slot i none })
      | some ⟨request, start, .raise e⟩ =>
          (some ⟨i, request, start, .error e⟩,
            { pool with slot := Function.update pool.slot i none })
      | some ⟨request, start, .call op next⟩ =>
          (none,
            { shared := (exec op pool.shared).2
              slot := Function.update pool.slot i
                (some ⟨request, start, next (exec op pool.shared).1⟩) })
  | .crash i => (none, { pool with slot := Function.update pool.slot i none })

/-- Every running program meets its postcondition from the present store. The
postcondition also speaks of the store that the request found, and what a program
relies on may depend on its request (`view`). -/
def Pool.Sound (exec : (op : Op) → σ → Res op × σ) (sharing : Sharing κ σ) (view : ι → ρ → κ)
    (post : ρ → σ → Except ε α → σ → Prop) (invariant : σ → Prop)
    (pool : Pool ι ρ Op Res ε α σ) : Prop :=
  invariant pool.shared ∧ ∀ i session, pool.slot i = some session →
    session.program.Meets exec sharing (view i session.request)
      (post session.request session.start) pool.shared

section Sound

variable {exec : (op : Op) → σ → Res op × σ} {sharing : Sharing κ σ} {view : ι → ρ → κ}
  {post : ρ → σ → Except ε α → σ → Prop} {invariant : σ → Prop}
  {pool : Pool ι ρ Op Res ε α σ}

omit [DecidableEq ι] in
theorem Pool.sound_idle {shared : σ} (hinvariant : invariant shared) :
    Pool.Sound exec sharing view post invariant (Pool.idle shared : Pool ι ρ Op Res ε α σ) :=
  ⟨hinvariant, by simp [Pool.idle]⟩

theorem Pool.Sound.replace (hsound : pool.Sound exec sharing view post invariant) {shared : σ}
    (hinvariant : invariant shared) (i : ι) (running : Option (Session ρ Op Res ε α σ))
    (hself : ∀ session, running = some session →
      session.program.Meets exec sharing (view i session.request)
        (post session.request session.start) shared)
    (hothers : ∀ j session, j ≠ i → pool.slot j = some session →
      sharing.rely (view j session.request) pool.shared shared) :
    Pool.Sound exec sharing view post invariant
      { shared := shared, slot := Function.update pool.slot i running } := by
  refine ⟨hinvariant, ?_⟩
  intro j session hsession
  by_cases hj : j = i
  · subst hj
    simp only [Function.update_self] at hsession
    exact hself session hsession
  · simp only [Function.update_of_ne hj] at hsession
    exact (hsound.2 j session hsession).rely (hothers j session hj hsession)

theorem Pool.Sound.shared_by {body : ρ → Program Op Res ε α}
    (hsound : pool.Sound exec sharing view post invariant) (act : Act ι ρ) :
    (pool.step exec body act).2.shared = pool.shared ∨
      ∃ i session, act = .advance i ∧ pool.slot i = some session ∧
        sharing.guarantee (view i session.request) pool.shared
          (pool.step exec body act).2.shared := by
  cases act with
  | start i request =>
      simp only [Pool.step]
      cases pool.slot i <;> exact Or.inl rfl
  | crash i => exact Or.inl rfl
  | advance i =>
      simp only [Pool.step]
      cases hslot : pool.slot i with
      | none => exact Or.inl rfl
      | some session =>
          have hmeets := hsound.2 i session hslot
          obtain ⟨request, start, p⟩ := session
          cases p with
          | ret a => exact Or.inl rfl
          | raise e => exact Or.inl rfl
          | call op next => exact Or.inr ⟨i, _, rfl, hslot, hmeets.advance.1⟩

/-- An act of one slot that the other slots rely on keeps a pool sound, and every answer
that it hands over meets the postcondition of its request. -/
theorem Pool.Sound.step_of_rely {body : ρ → Program Op Res ε α}
    (hsound : pool.Sound exec sharing view post invariant) (act : Act ι ρ)
    (hinvariant : invariant (pool.step exec body act).2.shared)
    (hrely : ∀ i j session, act = .advance i → j ≠ i → pool.slot j = some session →
      sharing.rely (view j session.request) pool.shared (pool.step exec body act).2.shared)
    (hstart : ∀ i request, act = .start i request → pool.slot i = none →
      (body request).Meets exec sharing (view i request) (post request pool.shared)
        pool.shared) :
    (pool.step exec body act).2.Sound exec sharing view post invariant ∧
      ∀ handover, (pool.step exec body act).1 = some handover →
        post handover.request handover.start handover.outcome pool.shared := by
  have hrefl : ∀ i j session, j ≠ i → pool.slot j = some session →
      sharing.rely (view j session.request) pool.shared pool.shared :=
    fun _ _ _ _ _ => sharing.rely_refl _ _
  cases act with
  | start i request =>
      simp only [Pool.step]
      cases hslot : pool.slot i with
      | some running => exact ⟨hsound, by simp⟩
      | none =>
          refine ⟨hsound.replace hsound.1 i _ ?_ (hrefl i), by simp⟩
          rintro session hsession
          obtain rfl := Option.some.inj hsession
          exact hstart i request rfl hslot
  | crash i =>
      exact ⟨hsound.replace hsound.1 i none (by simp) (hrefl i), by simp [Pool.step]⟩
  | advance i =>
      have hothers := fun j session hne => hrely i j session rfl hne
      simp only [Pool.step] at hinvariant hothers ⊢
      cases hslot : pool.slot i with
      | none => exact ⟨hsound, by simp⟩
      | some session =>
          have hmeets := hsound.2 i session hslot
          rw [hslot] at hinvariant hothers
          obtain ⟨request, start, p⟩ := session
          cases p with
          | ret a =>
              refine ⟨hsound.replace hsound.1 i none (by simp) (hrefl i), ?_⟩
              rintro handover hanswer
              obtain rfl := Option.some.inj hanswer
              exact hmeets _ (sharing.rely_refl _ _)
          | raise e =>
              refine ⟨hsound.replace hsound.1 i none (by simp) (hrefl i), ?_⟩
              rintro handover hanswer
              obtain rfl := Option.some.inj hanswer
              exact hmeets _ (sharing.rely_refl _ _)
          | call op next =>
              refine ⟨hsound.replace hinvariant i _ ?_ hothers, by simp⟩
              rintro session hsession
              obtain rfl := Option.some.inj hsession
              exact hmeets.advance.2

/-- Parallel composition: when what each operation of a slot guarantees is what the
other slots rely on, a sound pool stays sound, and every answer it hands over meets
the postcondition of its request. -/
theorem Pool.Sound.step {body : ρ → Program Op Res ε α}
    (hrely : ∀ i j session session' t, j ≠ i → pool.slot i = some session →
      pool.slot j = some session' → sharing.guarantee (view i session.request) pool.shared t →
        sharing.rely (view j session'.request) pool.shared t)
    (hinvariant : ∀ k s t, invariant s → sharing.guarantee k s t → invariant t)
    (hsound : pool.Sound exec sharing view post invariant) (act : Act ι ρ)
    (hstart : ∀ i request, act = .start i request → pool.slot i = none →
      (body request).Meets exec sharing (view i request) (post request pool.shared)
        pool.shared) :
    (pool.step exec body act).2.Sound exec sharing view post invariant ∧
      ∀ handover, (pool.step exec body act).1 = some handover →
        post handover.request handover.start handover.outcome pool.shared := by
  have hshared : (pool.step exec body act).2.shared = pool.shared ∨
      ∃ i session, act = .advance i ∧ pool.slot i = some session ∧
        sharing.guarantee (view i session.request) pool.shared
          (pool.step exec body act).2.shared := hsound.shared_by act
  refine hsound.step_of_rely act ?_ ?_ hstart
  · rcases hshared with hsame | ⟨i, session, -, -, hguarantee⟩
    · rw [hsame]
      exact hsound.1
    · exact hinvariant _ _ _ hsound.1 hguarantee
  · rintro i j session' rfl hne hslot'
    rcases hshared with hsame | ⟨i', session, hact, hslot, hguarantee⟩
    · rw [hsame]
      exact sharing.rely_refl _ _
    · cases hact
      exact hrely i j session session' _ hne hslot hslot' hguarantee

theorem Pool.Sound.shared_step {body : ρ → Program Op Res ε α}
    (hsound : pool.Sound exec sharing view post invariant) (act : Act ι ρ) :
    (pool.step exec body act).2.shared = pool.shared ∨
      ∃ k, sharing.guarantee k pool.shared (pool.step exec body act).2.shared :=
  (hsound.shared_by act).imp id fun ⟨_, _, _, _, hguarantee⟩ => ⟨_, hguarantee⟩

end Sound

/-- A session after an act was there before it, or has just been started. -/
theorem Pool.slot_step {exec : (op : Op) → σ → Res op × σ} {body : ρ → Program Op Res ε α}
    {pool : Pool ι ρ Op Res ε α σ} {act : Act ι ρ} {j : ι} {session : Session ρ Op Res ε α σ}
    (h : (pool.step exec body act).2.slot j = some session) :
    (∃ before, pool.slot j = some before ∧ before.request = session.request) ∨
      (act = .start j session.request ∧ pool.slot j = none) := by
  have hupdate : ∀ (i : ι) (running : Option (Session ρ Op Res ε α σ)),
      Function.update pool.slot i running j = some session →
      (∀ session', running = some session' →
        (∃ before, pool.slot i = some before ∧ before.request = session'.request) ∨
          (act = .start i session'.request ∧ pool.slot i = none)) →
      (∃ before, pool.slot j = some before ∧ before.request = session.request) ∨
        (act = .start j session.request ∧ pool.slot j = none) := by
    intro i running hslot hself
    by_cases hj : j = i
    · subst hj
      rw [Function.update_self] at hslot
      exact hself session hslot
    · rw [Function.update_of_ne hj] at hslot
      exact Or.inl ⟨session, hslot, rfl⟩
  cases act with
  | start i request =>
      simp only [Pool.step] at h
      split at h
      · rename_i hfree
        refine hupdate i _ h fun session' hsession => ?_
        obtain rfl := Option.some.inj hsession
        exact Or.inr ⟨rfl, hfree⟩
      · exact Or.inl ⟨session, h, rfl⟩
  | crash i => exact hupdate i none h (by simp)
  | advance i =>
      simp only [Pool.step] at h
      split at h
      · exact Or.inl ⟨session, h, rfl⟩
      · exact hupdate i none h (by simp)
      · exact hupdate i none h (by simp)
      · rename_i request start op next hrunning
        refine hupdate i _ h fun session' hsession => ?_
        obtain rfl := Option.some.inj hsession
        exact Or.inl ⟨_, hrunning, rfl⟩

/-- A session of a slot that did not advance was there as it is, or has just been started. -/
theorem Pool.slot_kept {exec : (op : Op) → σ → Res op × σ} {body : ρ → Program Op Res ε α}
    {pool : Pool ι ρ Op Res ε α σ} {act : Act ι ρ} {j : ι} {session : Session ρ Op Res ε α σ}
    (hact : act ≠ .advance j) (h : (pool.step exec body act).2.slot j = some session) :
    pool.slot j = some session ∨ ∃ request, act = .start j request ∧
      session = ⟨request, pool.shared, body request⟩ := by
  have hupdate : ∀ (i : ι) (running : Option (Session ρ Op Res ε α σ)), i ≠ j →
      Function.update pool.slot i running j = some session → pool.slot j = some session := by
    intro i running hne hslot
    rwa [Function.update_of_ne fun heq => hne heq.symm] at hslot
  cases act with
  | start i request =>
      simp only [Pool.step] at h
      split at h
      · by_cases hi : i = j
        · subst hi
          simp only [Function.update_self] at h
          exact Or.inr ⟨request, rfl, (Option.some.inj h).symm⟩
        · exact Or.inl (hupdate i _ hi h)
      · exact Or.inl h
  | crash i =>
      by_cases hi : i = j
      · subst hi
        simp only [Pool.step, Function.update_self] at h
        cases h
      · exact Or.inl (hupdate i _ hi h)
  | advance i =>
      have hi : i ≠ j := fun heq => hact (heq ▸ rfl)
      simp only [Pool.step] at h
      split at h
      · exact Or.inl h
      · exact Or.inl (hupdate i _ hi h)
      · exact Or.inl (hupdate i _ hi h)
      · exact Or.inl (hupdate i _ hi h)

end Pool

end Program
