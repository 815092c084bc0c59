import Mathlib.Data.Finset.Card
import Mathlib.Data.List.Sort
import Mathlib.Data.Prod.Lex
import Mathlib.Logic.Function.Basic

/-!
# Admission from a queue under two limits

Candidates of several owners wait in an order of precedence. One pass over the queue admits each
candidate as long as neither the limit of all nor the limit of its owner is reached (`admitAll`).
-/

namespace FairQueue

/-! ## Precedence -/

section Precedence

variable {α τ κ : Type} [LinearOrder τ] [LinearOrder κ]

/-- Precedence by turn, then by age, then by an order that breaks ties. -/
def precedes (turn : α → τ) (age : α → κ) (tie : α → α → Bool) (x y : α) : Bool :=
  if turn x ≠ turn y then turn x < turn y
  else if age x ≠ age y then age x < age y
  else tie x y

variable {turn : α → τ} {age : α → κ} {tie : α → α → Bool} {x y : α}

theorem precedes_iff : precedes turn age tie x y = true ↔
    turn x < turn y ∨ turn x = turn y ∧ (age x < age y ∨ age x = age y ∧ tie x y = true) := by
  unfold precedes
  split
  · next ne => simp [ne]
  next same =>
  rw [not_not] at same
  split
  · next ne => simp [same, ne]
  · next old =>
    rw [not_not] at old
    simp [same, old]

theorem precedes_iff_rank : precedes turn age tie x y = true ↔
    toLex (turn x, age x) < toLex (turn y, age y) ∨
      toLex (turn x, age x) = toLex (turn y, age y) ∧ tie x y = true := by
  rw [precedes_iff, Prod.Lex.toLex_lt_toLex, toLex_inj, Prod.mk.injEq]
  tauto

theorem precedes_pairwise (total : ∀ x y, tie x y = true ∨ tie y x = true)
    (trans : ∀ x y z, tie x y = true → tie y z = true → tie x z = true) (rows : List α) :
    (rows.insertionSort fun x y => precedes turn age tie x y).Pairwise
      fun x y => precedes turn age tie x y = true := by
  have : Std.Total fun x y => precedes turn age tie x y = true := by
    refine ⟨fun x y => ?_⟩
    rw [precedes_iff_rank, precedes_iff_rank]
    rcases lt_trichotomy (toLex (turn x, age x)) (toLex (turn y, age y)) with lt | same | gt
    · exact .inl (.inl lt)
    · exact (total x y).imp (fun before => .inr ⟨same, before⟩) fun before => .inr ⟨same.symm, before⟩
    · exact .inr (.inl gt)
  have : IsTrans α fun x y => precedes turn age tie x y = true := by
    refine ⟨fun x y z first second => ?_⟩
    rw [precedes_iff_rank] at first second ⊢
    rcases first with lt | ⟨same, before⟩
    · exact .inl (second.elim lt.trans fun second => second.1 ▸ lt)
    · rw [same]
      exact second.imp_right fun second => ⟨second.1, trans x y z before second.2⟩
  exact List.pairwise_insertionSort _ rows

theorem age_eq_of_precedes (first : precedes turn age tie x y = true)
    (second : precedes turn age tie y x = true) : age x = age y := by
  rw [precedes_iff_rank] at first second
  have same : toLex (turn x, age x) = toLex (turn y, age y) :=
    le_antisymm (first.elim le_of_lt fun first => first.1.le)
      (second.elim le_of_lt fun second => second.1.le)
  exact congrArg Prod.snd (toLex_inj.mp same)

end Precedence

/-! ## Admission -/

/-- How many are admitted, altogether and of each owner. -/
structure Load (ω : Type) where
  total : Nat
  held : ω → Nat

section Admission

variable {α ω : Type} [DecidableEq ω]

def Load.add (load : Load ω) (owner : ω) : Load ω :=
  ⟨load.total + 1, Function.update load.held owner (load.held owner + 1)⟩

/-- One of the limits is reached for the owner. -/
def Load.Full (load : Load ω) (totalLimit heldLimit : Int) (owner : ω) : Prop :=
  totalLimit ≤ load.total ∨ heldLimit ≤ load.held owner

instance (load : Load ω) (totalLimit heldLimit : Int) (owner : ω) :
    Decidable (load.Full totalLimit heldLimit owner) :=
  inferInstanceAs (Decidable (_ ∨ _))

/-- The candidates that one pass over the queue admits. -/
def admitAll (owner : α → ω) (totalLimit heldLimit : Int) : List α → Load ω → List α
  | [], _ => []
  | x :: rest, load =>
    if load.Full totalLimit heldLimit (owner x) then admitAll owner totalLimit heldLimit rest load
    else x :: admitAll owner totalLimit heldLimit rest (load.add (owner x))

def Load.addAll (load : Load ω) (owner : α → ω) (admitted : List α) : Load ω :=
  admitted.foldl (fun load x => load.add (owner x)) load

variable {owner : α → ω} {totalLimit heldLimit : Int} {queue : List α} {load : Load ω} {x : α}

theorem admitAll_cons_of_full (full : load.Full totalLimit heldLimit (owner x)) :
    admitAll owner totalLimit heldLimit (x :: queue) load =
      admitAll owner totalLimit heldLimit queue load :=
  if_pos full

theorem admitAll_cons_of_room (room : ¬ load.Full totalLimit heldLimit (owner x)) :
    admitAll owner totalLimit heldLimit (x :: queue) load =
      x :: admitAll owner totalLimit heldLimit queue (load.add (owner x)) :=
  if_neg room

theorem admitAll_sublist (owner : α → ω) (totalLimit heldLimit : Int) (queue : List α)
    (load : Load ω) : (admitAll owner totalLimit heldLimit queue load).Sublist queue := by
  induction queue generalizing load with
  | nil => exact .slnil
  | cons x rest ih =>
    unfold admitAll
    split
    · exact (ih load).cons x
    · exact (ih _).cons_cons x

theorem Load.held_add (load : Load ω) (o o' : ω) :
    (load.add o').held o = if o = o' then load.held o' + 1 else load.held o :=
  Function.update_apply load.held o' (load.held o' + 1) o

theorem Load.le_held_add (load : Load ω) (o o' : ω) : load.held o ≤ (load.add o').held o := by
  rw [Load.held_add]
  split
  · next same => rw [same]; exact Nat.le_succ _
  · exact le_rfl

theorem Load.Full.add {o : ω} (full : load.Full totalLimit heldLimit o) (o' : ω) :
    (load.add o').Full totalLimit heldLimit o := by
  have more := load.le_held_add o o'
  rcases full with total | held
  · exact .inl (total.trans (Int.ofNat_le.mpr (Nat.le_succ _)))
  · exact .inr (held.trans (Int.ofNat_le.mpr more))

theorem Load.Full.addAll {o : ω} (full : load.Full totalLimit heldLimit o) (admitted : List α) :
    (load.addAll owner admitted).Full totalLimit heldLimit o := by
  induction admitted generalizing load with
  | nil => exact full
  | cons x rest ih => exact ih (full.add (owner x))

/-- Who is left out finds one of the limits reached, also at the end of the pass. -/
theorem full_of_not_mem_admitAll (mem : x ∈ queue)
    (out : x ∉ admitAll owner totalLimit heldLimit queue load) :
    (load.addAll owner (admitAll owner totalLimit heldLimit queue load)).Full totalLimit heldLimit
      (owner x) := by
  induction queue generalizing load with
  | nil => cases mem
  | cons y rest ih =>
    by_cases full : load.Full totalLimit heldLimit (owner y)
    · rw [admitAll_cons_of_full full] at out ⊢
      rcases List.mem_cons.mp mem with rfl | mem
      · exact full.addAll _
      · exact ih mem out
    · rw [admitAll_cons_of_room full, List.mem_cons, not_or] at out
      rw [admitAll_cons_of_room full]
      exact ih ((List.mem_cons.mp mem).resolve_left out.1) out.2

theorem admitAll_eq_nil (full : totalLimit ≤ load.total) :
    admitAll owner totalLimit heldLimit queue load = [] := by
  induction queue with
  | nil => rfl
  | cons x rest ih =>
    rw [admitAll_cons_of_full (.inl full), ih]

theorem map_admitAll {β : Type} (f : β → α) (queue : List β) (load : Load ω) :
    (admitAll (fun x => owner (f x)) totalLimit heldLimit queue load).map f =
      admitAll owner totalLimit heldLimit (queue.map f) load := by
  induction queue generalizing load with
  | nil => rfl
  | cons x rest ih =>
    rw [List.map_cons]
    unfold admitAll
    split
    · exact ih load
    · rw [List.map_cons, ih]

/-! ## Owner limit one -/

def idleOwners (owner : α → ω) (load : Load ω) (candidates : List α) : Finset ω :=
  ((candidates.map owner).filter fun o => load.held o = 0).toFinset

theorem mem_idleOwners {candidates : List α} {o : ω} :
    o ∈ idleOwners owner load candidates ↔ (∃ x ∈ candidates, owner x = o) ∧ load.held o = 0 := by
  simp [idleOwners]

/-- A candidate who is not the first one of an idle owner finds a limit reached, even if only the
first candidates of idle owners are admitted before. -/
def LaterFull (owner : α → ω) (totalLimit heldLimit : Int) (queue : List α) (load : Load ω) :
    Prop :=
  ∀ front x back, queue = front ++ x :: back →
    (load.held (owner x) ≠ 0 ∨ ∃ y ∈ front, owner y = owner x) →
      totalLimit ≤ load.total + (idleOwners owner load front).card ∨
        heldLimit ≤ max (load.held (owner x)) 1

theorem laterFull_of_full (full : totalLimit ≤ load.total) :
    LaterFull owner totalLimit heldLimit queue load :=
  fun _ _ _ _ _ => .inl (by omega)

theorem LaterFull.of_map {β : Type} {f : β → α} {queue : List β}
    (later : LaterFull owner totalLimit heldLimit (queue.map f) load) :
    LaterFull (fun x => owner (f x)) totalLimit heldLimit queue load := by
  intro front x back split blocked
  have same : idleOwners owner load (front.map f) =
      idleOwners (fun x => owner (f x)) load front := by
    unfold idleOwners
    rw [List.map_map]
    rfl
  rw [← same]
  refine later (front.map f) (f x) (back.map f) (by rw [split, List.map_append, List.map_cons]) ?_
  exact blocked.imp_right fun ⟨y, mem, is⟩ => ⟨f y, List.mem_map_of_mem mem, is⟩

theorem laterFull_cons_busy (busy : load.held (owner x) ≠ 0) :
    LaterFull owner totalLimit heldLimit (x :: queue) load ↔
      load.Full totalLimit heldLimit (owner x) ∧
        LaterFull owner totalLimit heldLimit queue load := by
  have same (front : List α) :
      idleOwners owner load (x :: front) = idleOwners owner load front := by
    ext o
    simp only [mem_idleOwners, List.mem_cons, exists_eq_or_imp]
    exact ⟨fun ⟨found, idle⟩ => ⟨found.resolve_left fun is => busy (is ▸ idle), idle⟩,
      fun ⟨found, idle⟩ => ⟨.inr found, idle⟩⟩
  constructor
  · intro later
    constructor
    · have here := later [] x queue rfl (.inl busy)
      rw [max_eq_left (Nat.one_le_iff_ne_zero.mpr busy)] at here
      exact here
    · intro front y back split blocked
      have there := later (x :: front) y back (by rw [split]; rfl)
        (blocked.imp_right fun ⟨z, mem, is⟩ => ⟨z, .tail _ mem, is⟩)
      rwa [same] at there
  · rintro ⟨full, later⟩ front y back split blocked
    cases front with
    | nil =>
      cases split
      rw [max_eq_left (Nat.one_le_iff_ne_zero.mpr busy)]
      exact full
    | cons z front =>
      cases split
      rw [same]
      refine later front y back rfl ?_
      rcases blocked with held | ⟨z, mem, is⟩
      · exact .inl held
      rcases List.mem_cons.mp mem with rfl | mem
      · exact .inl (is ▸ busy)
      · exact .inr ⟨z, mem, is⟩

theorem laterFull_cons_idle (idle : load.held (owner x) = 0) :
    LaterFull owner totalLimit heldLimit (x :: queue) load ↔
      LaterFull owner totalLimit heldLimit queue (load.add (owner x)) := by
  have held (o : ω) : (load.add (owner x)).held o = if o = owner x then 1 else load.held o := by
    rw [Load.held_add, idle]
  have card (front : List α) : (idleOwners owner load (x :: front)).card =
      (idleOwners owner (load.add (owner x)) front).card + 1 := by
    have taken : owner x ∉ idleOwners owner (load.add (owner x)) front := by
      rw [mem_idleOwners, held, if_pos rfl]
      exact fun found => one_ne_zero found.2
    rw [← Finset.card_insert_of_notMem taken]
    congr 1
    ext o
    simp only [mem_idleOwners, Finset.mem_insert, List.mem_cons, exists_eq_or_imp, held]
    by_cases is : o = owner x
    · simp [is, idle]
    · simp [is, Ne.symm is]
  have most (o : ω) : max ((load.add (owner x)).held o) 1 = max (load.held o) 1 := by
    rw [held]
    split
    · next is => rw [is, idle]; rfl
    · rfl
  constructor
  · intro later front y back split blocked
    have there := later (x :: front) y back (by rw [split]; rfl) ?_
    · rw [card] at there
      rw [most]
      exact there.imp_left fun total => by
        change totalLimit ≤ ((load.total + 1 : Nat) : Int) + _
        omega
    · rw [held] at blocked
      by_cases is : owner y = owner x
      · exact .inr ⟨x, .head _, is.symm⟩
      · rw [if_neg is] at blocked
        exact blocked.imp_right fun ⟨z, mem, same⟩ => ⟨z, .tail _ mem, same⟩
  · intro later front y back split blocked
    cases front with
    | nil =>
      cases split
      rcases blocked with held | ⟨z, mem, -⟩
      · exact absurd idle held
      · cases mem
    | cons z front =>
      cases split
      have there := later front y back rfl ?_
      · rw [most] at there
        rw [card]
        exact there.imp_left fun total => by
          change totalLimit ≤ ((load.total + 1 : Nat) : Int) + _ at total
          omega
      · rw [held]
        rcases blocked with held | ⟨z, mem, is⟩
        · left
          split
          · exact one_ne_zero
          · exact held
        rcases List.mem_cons.mp mem with rfl | mem
        · exact .inl (by rw [if_pos is.symm]; exact one_ne_zero)
        · exact .inr ⟨z, mem, is⟩

/-- A pass with owner limit one admits the same candidates exactly if later candidates of an owner
find a limit reached anyway. -/
theorem admitAll_one_iff (distinct : queue.Nodup) (positive : 1 ≤ heldLimit) :
    admitAll owner totalLimit heldLimit queue load = admitAll owner totalLimit 1 queue load ↔
      LaterFull owner totalLimit heldLimit queue load := by
  induction queue generalizing load with
  | nil =>
    refine iff_of_true rfl fun front x back split => ?_
    exact absurd split.symm (List.append_ne_nil_of_right_ne_nil front (List.cons_ne_nil x back))
  | cons x rest ih =>
    rw [List.nodup_cons] at distinct
    by_cases full : totalLimit ≤ load.total
    · rw [admitAll_eq_nil full, admitAll_eq_nil full]
      exact iff_of_true rfl (laterFull_of_full full)
    by_cases idle : load.held (owner x) = 0
    · -- both passes take the first candidate of an idle owner
      have room {limit : Int} (positive : 1 ≤ limit) :
          ¬ load.Full totalLimit limit (owner x) := by
        rintro (total | held)
        · exact full total
        · rw [idle] at held
          omega
      rw [laterFull_cons_idle idle, ← ih distinct.2, admitAll_cons_of_room (room positive),
        admitAll_cons_of_room (room le_rfl), List.cons_inj_right]
    · -- the pass with limit one leaves out a candidate whose owner holds something
      have skipped : load.Full totalLimit 1 (owner x) := .inr (by omega)
      rw [laterFull_cons_busy idle, ← ih distinct.2, admitAll_cons_of_full skipped]
      by_cases limit : load.Full totalLimit heldLimit (owner x)
      · rw [admitAll_cons_of_full limit]
        exact (and_iff_right limit).symm
      · rw [admitAll_cons_of_room limit]
        refine iff_of_false (fun same => distinct.1 ?_) fun both => limit both.1
        exact (admitAll_sublist owner totalLimit 1 rest load).subset (same ▸ .head _)

theorem admitAll_eq_of_mem_iff {heldLimit' : Int} (distinct : queue.Nodup)
    (same : ∀ x, x ∈ admitAll owner totalLimit heldLimit queue load ↔
      x ∈ admitAll owner totalLimit heldLimit' queue load) :
    admitAll owner totalLimit heldLimit queue load =
      admitAll owner totalLimit heldLimit' queue load := by
  have sub := admitAll_sublist owner totalLimit heldLimit queue load
  have sub' := admitAll_sublist owner totalLimit heldLimit' queue load
  exact (distinct.perm_iff_eq_of_sublist sub sub').mp
    ((List.perm_ext_iff_of_nodup (distinct.sublist sub) (distinct.sublist sub')).mpr same)

end Admission

end FairQueue
