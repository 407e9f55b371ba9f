import Mathlib.Data.List.Basic
import Mathlib.Data.List.Forall2

/-! # Computations that may throw

How a computation in `Except` that returned is taken apart: every step before the last returned, and
no guard threw. -/

namespace AutoTrade.Lib.Result

variable {ε α β : Type}

variable {b : β} {f : α → Except ε β} {x : Except ε α}

theorem bind_eq_ok : (x >>= f) = .ok b ↔ ∃ a, x = .ok a ∧ f a = .ok b := by
  rcases x with e | a
  · constructor
    · intro h
      cases h
    · rintro ⟨a, ha, -⟩
      cases ha
  · constructor
    · intro h
      exact ⟨a, rfl, h⟩
    · rintro ⟨a', ha, hf⟩
      rw [← Except.ok.inj ha] at hf
      exact hf

theorem ok_bind (a : α) (f : α → Except ε β) : (Except.ok a >>= f) = f a := rfl

theorem then_eq_ok {x : Except ε Unit} {f : Unit → Except ε β} :
    (x >>= f) = .ok b ↔ x = .ok () ∧ f () = .ok b := by
  rw [bind_eq_ok]
  constructor
  · rintro ⟨⟨⟩, hx, hf⟩
    exact ⟨hx, hf⟩
  · rintro ⟨hx, hf⟩
    exact ⟨(), hx, hf⟩

theorem map_eq_ok {f : α → β} (h : x.map f = .ok b) : ∃ a, x = .ok a ∧ f a = b := by
  rcases x with e | a
  · cases h
  · exact ⟨a, rfl, Except.ok.inj h⟩

theorem exists_ok (h : x.isOk = true) : ∃ a, x = .ok a := by
  cases x with
  | error e => cases h
  | ok a => exact ⟨a, rfl⟩

theorem guard_eq_ok {p : Prop} [Decidable p] {e : ε} {a : α} :
    (if p then .error e else x) = .ok a ↔ ¬ p ∧ x = .ok a := by
  by_cases h : p <;> simp [h]

/-- `if (p) throw new Error(e)`. -/
def throwIf (p : Prop) [Decidable p] (e : ε) : Except ε Unit := if p then .error e else .ok ()

@[simp] theorem throwIf_eq_ok {p : Prop} [Decidable p] {e : ε} {u : Unit} :
    throwIf p e = .ok u ↔ ¬ p := by
  by_cases h : p <;> simp [throwIf, h]

/-- Elements that the function throws on are kept, so the first of them stays the first. -/
theorem mapM_filter {p : α → Bool} {q : β → Bool} (hok : ∀ a b, f a = .ok b → p a = q b)
    (herror : ∀ a e, f a = .error e → p a = true) (l : List α) :
    (l.filter p).mapM f = (l.mapM f).map (List.filter q) := by
  induction l with
  | nil => rfl
  | cons a rest ih =>
    rw [List.mapM_cons]
    cases hf : f a with
    | error e => rw [List.filter_cons_of_pos (herror a e hf), List.mapM_cons, hf]; rfl
    | ok b =>
      rw [ok_bind]
      have hp := hok a b hf
      by_cases hq : q b = true
      · rw [List.filter_cons_of_pos (hp.trans hq), List.mapM_cons, hf, ok_bind, ih]
        cases rest.mapM f with
        | error e => rfl
        | ok bs => simp [Except.map, hq, pure, Except.pure, bind, Except.bind]
      · rw [List.filter_cons_of_neg (by rw [hp]; exact hq), ih]
        cases rest.mapM f with
        | error e => rfl
        | ok bs => simp [Except.map, hq, pure, Except.pure, bind, Except.bind]

variable {l : List α} {r : List β}

theorem forall₂_of_mapM (h : l.mapM f = .ok r) : List.Forall₂ (fun a b => f a = .ok b) l r := by
  induction l generalizing r with
  | nil =>
    cases h
    exact List.Forall₂.nil
  | cons a rest ih =>
    rw [List.mapM_cons, bind_eq_ok] at h
    obtain ⟨b, hf, h⟩ := h
    obtain ⟨bs, hbs, hr⟩ := bind_eq_ok.mp h
    rw [← Except.ok.inj hr]
    exact List.Forall₂.cons hf (ih hbs)

theorem mem_of_mapM_eq_ok (h : l.mapM f = .ok r) (hb : b ∈ r) : ∃ a ∈ l, f a = .ok b := by
  have hall := forall₂_of_mapM h
  clear h
  induction hall with
  | nil => cases hb
  | cons hf _ ih =>
    rcases List.mem_cons.mp hb with rfl | hb
    · exact ⟨_, List.mem_cons_self, hf⟩
    · obtain ⟨a, hmem, ha⟩ := ih hb
      exact ⟨a, List.mem_cons_of_mem _ hmem, ha⟩

theorem map_of_mapM_eq_ok {g : β → α} (hg : ∀ a b, f a = .ok b → g b = a) (h : l.mapM f = .ok r) :
    r.map g = l := by
  have hall := forall₂_of_mapM h
  clear h
  induction hall with
  | nil => rfl
  | cons hf _ ih => rw [List.map_cons, hg _ _ hf, ih]

theorem eq_ok_of_mem_zip_mapM (h : l.mapM f = .ok r) {a : α} (hmem : (a, b) ∈ l.zip r) :
    f a = .ok b :=
  List.forall₂_zip (forall₂_of_mapM h) hmem

theorem map_fst_zip_mapM (h : l.mapM f = .ok r) : (l.zip r).map Prod.fst = l :=
  List.map_fst_zip (Nat.le_of_eq (forall₂_of_mapM h).length_eq)

@[simp] theorem mapError_eq_ok {ε' : Type} {f : ε → ε'} {a : α} :
    x.mapError f = .ok a ↔ x = .ok a := by
  cases x <;> simp [Except.mapError]

theorem mapM_eq_ok_iff {f : α → Except ε β} {g : α → β} {p : α → Prop}
    (h : ∀ a b, f a = .ok b ↔ p a ∧ b = g a) {l : List α} {r : List β} :
    l.mapM f = .ok r ↔ (∀ a ∈ l, p a) ∧ r = l.map g := by
  induction l generalizing r with
  | nil => simp [pure, Except.pure, eq_comm]
  | cons a rest ih =>
    rw [List.mapM_cons, bind_eq_ok, List.forall_mem_cons, List.map_cons]
    constructor
    · rintro ⟨b, hf, hrest⟩
      obtain ⟨hp, rfl⟩ := (h a b).mp hf
      obtain ⟨bs, hbs, hr⟩ := bind_eq_ok.mp hrest
      obtain ⟨hall, rfl⟩ := ih.mp hbs
      exact ⟨⟨hp, hall⟩, (Except.ok.inj hr).symm⟩
    · rintro ⟨⟨hp, hall⟩, rfl⟩
      refine ⟨g a, (h a _).mpr ⟨hp, rfl⟩, ?_⟩
      rw [ih.mpr ⟨hall, rfl⟩]
      rfl

theorem mapM_eq_ok_map {f : α → Except ε β} {g : α → β} {l : List α} (h : ∀ a ∈ l, f a = .ok (g a)) :
    l.mapM f = .ok (l.map g) := by
  induction l with
  | nil => rfl
  | cons a rest ih =>
    rw [List.forall_mem_cons] at h
    rw [List.mapM_cons, h.1, ok_bind, ih h.2]
    rfl

theorem foldlM_eq_ok_iff {f : β → α → Except ε β} {g : β → α → β} {p : α → Prop}
    (h : ∀ b a c, f b a = .ok c ↔ p a ∧ c = g b a) {l : List α} {b c : β} :
    l.foldlM f b = .ok c ↔ (∀ a ∈ l, p a) ∧ c = l.foldl g b := by
  induction l generalizing b with
  | nil => simp [pure, Except.pure, eq_comm]
  | cons a rest ih =>
    rw [List.foldlM_cons, bind_eq_ok, List.forall_mem_cons, List.foldl_cons]
    constructor
    · rintro ⟨b', hf, hrest⟩
      obtain ⟨hp, rfl⟩ := (h b a b').mp hf
      obtain ⟨hall, hc⟩ := ih.mp hrest
      exact ⟨⟨hp, hall⟩, hc⟩
    · rintro ⟨⟨hp, hall⟩, hc⟩
      exact ⟨g b a, (h b a _).mpr ⟨hp, rfl⟩, ih.mpr ⟨hall, hc⟩⟩

/-! ### Lists of computations -/

theorem isOk_iff_exists : x.isOk = true ↔ ∃ a, x = .ok a := by
  cases x <;> simp [Except.isOk, Except.toBool]

theorem isOk_mapM : (l.mapM f).isOk = true ↔ ∀ a ∈ l, (f a).isOk = true := by
  induction l with
  | nil => simp [pure, Except.pure, Except.isOk, Except.toBool]
  | cons a rest ih =>
    rw [List.mapM_cons, List.forall_mem_cons, ← ih]
    cases f a with
    | error e => simp [bind, Except.bind, Except.isOk, Except.toBool]
    | ok b =>
      rw [ok_bind]
      cases rest.mapM f with
      | error e => simp [bind, Except.bind, Except.isOk, Except.toBool]
      | ok bs => simp [pure, Except.pure, bind, Except.bind, Except.isOk, Except.toBool]

theorem forM_eq_ok {f : α → Except ε Unit} : l.forM f = .ok () ↔ ∀ a ∈ l, f a = .ok () := by
  induction l with
  | nil => simp [List.forM, pure, Except.pure]
  | cons a rest ih =>
    rw [show (a :: rest).forM f = (f a >>= fun _ => rest.forM f) from rfl, then_eq_ok, ih,
      List.forall_mem_cons]

end AutoTrade.Lib.Result
