import Mathlib.Data.List.AList
import Mathlib.Tactic

/-!
# Keyed stores

A `Table` is a list of rows in insertion order in which the key of a row, a
function of the row, determines the row. It offers the operations a relational
store has on a primary key: select, count, insert and update. An insertion whose
key is taken fails and leaves nothing behind. Two tables match when their rows
correspond one by one, and the operations keep them so. The second part adds to
`AList` the loop that walks over the entries and erases those whose value satisfies
a test.
-/

namespace Foundation

/-- Rows in insertion order, no two with the same key. -/
structure Table {ρ κ : Type} (key : ρ → κ) where
  rows : List ρ
  distinct : (rows.map key).Nodup

namespace Table

variable {ρ κ : Type} [DecidableEq κ] {key : ρ → κ}

/-- The table without rows. -/
def empty : Table key := ⟨[], by simp⟩

/-- Select the row with a given key. -/
def find (t : Table key) (k : κ) : Option ρ := t.rows.find? (fun r => key r = k)

/-- Count the rows with a given key. -/
def count (t : Table key) (k : κ) : Nat := t.rows.countP (fun r => key r = k)

theorem find_eq_some {t : Table key} {k : κ} {r : ρ} :
    t.find k = some r ↔ r ∈ t.rows ∧ key r = k := by
  constructor
  · intro h
    exact ⟨List.mem_of_find?_eq_some h, by simpa using List.find?_some h⟩
  · rintro ⟨hr, rfl⟩
    cases h : t.find (key r) with
    | none => simpa using List.find?_eq_none.mp h r hr
    | some r' =>
      have hkey : key r' = key r := by simpa using List.find?_some h
      rw [List.inj_on_of_nodup_map t.distinct (List.mem_of_find?_eq_some h) hr hkey]

theorem find_eq_none {t : Table key} {k : κ} :
    t.find k = none ↔ ∀ r ∈ t.rows, key r ≠ k := by
  simp [find]

theorem find_key {t : Table key} {r : ρ} (hr : r ∈ t.rows) : t.find (key r) = some r :=
  find_eq_some.mpr ⟨hr, rfl⟩

@[simp] theorem find_empty (k : κ) : (empty : Table key).find k = none := rfl

theorem count_eq_zero {t : Table key} {k : κ} : t.count k = 0 ↔ t.find k = none := by
  simp [count, find]

theorem count_le_one (t : Table key) (k : κ) : t.count k ≤ 1 := by
  have h := List.nodup_iff_count_le_one.mp t.distinct k
  rwa [List.count_eq_countP, List.countP_map] at h

/-- The selection of a key determines its count. -/
theorem count_congr {t t' : Table key} {k : κ} (h : t.find k = t'.find k) :
    t.count k = t'.count k := by
  have hzero : t.count k = 0 ↔ t'.count k = 0 := by
    rw [count_eq_zero, count_eq_zero, h]
  have hle := t.count_le_one k
  have hle' := t'.count_le_one k
  omega

/-- Append a row unless its key is taken. -/
def insert (t : Table key) (r : ρ) : Option (Table key) :=
  if h : ∀ r' ∈ t.rows, key r' ≠ key r then
    some ⟨t.rows ++ [r], by
      rw [List.map_append, List.nodup_append]
      refine ⟨t.distinct, by simp, ?_⟩
      intro k hk k' hk'
      obtain ⟨r', hr', rfl⟩ := List.mem_map.mp hk
      simpa [List.mem_singleton.mp (by simpa using hk')] using h r' hr'⟩
  else none

theorem insert_eq_none {t : Table key} {r : ρ} :
    t.insert r = none ↔ t.find (key r) ≠ none := by
  unfold insert
  split_ifs with h
  · simpa [find_eq_none] using h
  · simpa [find_eq_none] using h

theorem rows_insert {t t' : Table key} {r : ρ} (h : t.insert r = some t') :
    t'.rows = t.rows ++ [r] := by
  unfold insert at h
  split_ifs at h
  simp only [Option.some.injEq] at h
  rw [← h]

theorem find_of_insert {t t' : Table key} {r : ρ} (h : t.insert r = some t') :
    t.find (key r) = none := by
  by_contra hne
  rw [insert_eq_none.mpr hne] at h
  cases h

theorem find_insert {t t' : Table key} {r : ρ} (h : t.insert r = some t') (k : κ) :
    t'.find k = if k = key r then some r else t.find k := by
  have hnone := find_of_insert h
  have hfind : t'.find k = (t.find k).or (if key r = k then some r else none) := by
    simp only [find, rows_insert h, List.find?_append]
    congr 1
    split_ifs with hk <;> simp [hk]
  rw [hfind]
  split_ifs with hk hk' hk'
  · subst hk; simp [hnone]
  · exact absurd hk.symm hk'
  · exact absurd hk'.symm hk
  · simp

/-- Rewrite the row with a given key by a function that keeps keys. -/
def update (t : Table key) (k : κ) (f : ρ → ρ) (hf : ∀ r, key (f r) = key r) : Table key :=
  ⟨t.rows.map (fun r => if key r = k then f r else r), by
    rw [List.map_map]
    convert t.distinct using 2
    funext r
    simp only [Function.comp]
    split_ifs
    · exact hf r
    · rfl⟩

theorem find_update (t : Table key) (k : κ) (f : ρ → ρ) (hf : ∀ r, key (f r) = key r) (k' : κ) :
    (t.update k f hf).find k' = if k' = k then (t.find k').map f else t.find k' := by
  have hkey (r : ρ) : key (if key r = k then f r else r) = key r := by
    split_ifs
    · exact hf r
    · rfl
  have hmap : (t.update k f hf).find k' =
      (t.find k').map (fun r => if key r = k then f r else r) := by
    simp only [find, update, List.find?_map, Function.comp_def, hkey]
  rw [hmap]
  cases h : t.find k' with
  | none => simp
  | some r => simp [(find_eq_some.mp h).2, apply_ite some]

theorem mem_update {t : Table key} {k : κ} {f : ρ → ρ} {hf : ∀ r, key (f r) = key r} {r : ρ} :
    r ∈ (t.update k f hf).rows ↔
      (∃ r' ∈ t.rows, key r' = k ∧ f r' = r) ∨ (r ∈ t.rows ∧ key r ≠ k) := by
  simp only [update, List.mem_map]
  constructor
  · rintro ⟨r', hr', rfl⟩
    split_ifs with hk
    · exact .inl ⟨r', hr', hk, rfl⟩
    · exact .inr ⟨hr', hk⟩
  · rintro (⟨r', hr', hk, rfl⟩ | ⟨hr, hk⟩)
    · exact ⟨r', hr', by simp [hk]⟩
    · exact ⟨r, hr, by simp [hk]⟩

/-! ## Tables that match -/

section Matches

variable {ρ ρ' κ κ' : Type} [DecidableEq κ] [DecidableEq κ'] {key : ρ → κ} {key' : ρ' → κ'}
  {R : ρ → ρ' → Prop} {name : κ' → κ} {t : Table key} {t' : Table key'}

/-- The rows of two tables correspond one by one, in their order. -/
def Matches (R : ρ → ρ' → Prop) (t : Table key) (t' : Table key') : Prop :=
  List.Forall₂ R t.rows t'.rows

/-- Rows that correspond are found under keys that correspond. -/
theorem Matches.find (h : Matches R t t') (hname : Function.Injective name)
    (hkey : ∀ r r', R r r' → key r = name (key' r')) (k : κ') :
    Option.Rel R (t.find (name k)) (t'.find k) := by
  unfold Matches at h
  unfold Table.find
  generalize t.rows = rows at h ⊢
  generalize t'.rows = rows' at h ⊢
  induction h with
  | nil => exact .none
  | @cons r r' rows rows' hr _ ih =>
    have hsame : key r = name k ↔ key' r' = k := by
      rw [hkey r r' hr]
      exact hname.eq_iff
    by_cases hk : key' r' = k
    · rw [List.find?_cons_of_pos (by simpa using hsame.mpr hk),
        List.find?_cons_of_pos (by simpa using hk)]
      exact .some hr
    · rw [List.find?_cons_of_neg (by simpa using fun h => hk (hsame.mp h)),
        List.find?_cons_of_neg (by simpa using hk)]
      exact ih

theorem Matches.find_eq_none (h : Matches R t t') (hname : Function.Injective name)
    (hkey : ∀ r r', R r r' → key r = name (key' r')) (k : κ') :
    t.find (name k) = none ↔ t'.find k = none := by
  have hfind := h.find hname hkey k
  cases hrow : t.find (name k) with
  | none =>
    rw [hrow] at hfind
    cases hrow' : t'.find k with
    | none => simp
    | some r' =>
      rw [hrow'] at hfind
      cases hfind
  | some r =>
    rw [hrow] at hfind
    cases hrow' : t'.find k with
    | none =>
      rw [hrow'] at hfind
      cases hfind
    | some r' => simp

/-- An insertion fails in both, or adds rows that correspond. -/
theorem Matches.insert (h : Matches R t t') (hname : Function.Injective name)
    (hkey : ∀ r r', R r r' → key r = name (key' r')) {r : ρ} {r' : ρ'} (hr : R r r') :
    Option.Rel (Matches R) (t.insert r) (t'.insert r') := by
  have hfree : t.insert r = none ↔ t'.insert r' = none := by
    rw [insert_eq_none, insert_eq_none, hkey r r' hr]
    exact not_congr (h.find_eq_none hname hkey _)
  cases hins : t.insert r with
  | none =>
    rw [hfree.mp hins]
    exact .none
  | some u =>
    cases hins' : t'.insert r' with
    | none => exact absurd (hfree.mpr hins') (by simp [hins])
    | some u' =>
      refine .some ?_
      unfold Matches
      rw [rows_insert hins, rows_insert hins']
      exact List.rel_append h (.cons hr .nil)

/-- An update rewrites rows that correspond. -/
theorem Matches.update (h : Matches R t t') (hname : Function.Injective name)
    (hkey : ∀ r r', R r r' → key r = name (key' r')) {k : κ'} {f : ρ → ρ} {f' : ρ' → ρ'}
    (hf : ∀ r, key (f r) = key r) (hf' : ∀ r, key' (f' r) = key' r)
    (hR : ∀ r r', key' r' = k → R r r' → R (f r) (f' r')) :
    Matches R (t.update (name k) f hf) (t'.update k f' hf') := by
  unfold Matches at h ⊢
  unfold Table.update
  rw [List.forall₂_map_left_iff, List.forall₂_map_right_iff]
  refine h.imp fun r r' hr => ?_
  have hsame : key r = name k ↔ key' r' = k := by
    rw [hkey r r' hr]
    exact hname.eq_iff
  by_cases hk : key' r' = k
  · rw [if_pos (hsame.mpr hk), if_pos hk]
    exact hR r r' hk hr
  · rw [if_neg fun h => hk (hsame.mp h), if_neg hk]
    exact hr

end Matches

end Table

/-! ## Erasing while iterating -/

section EraseLoop

variable {κ ν : Type} [DecidableEq κ]

/-- Walk over a list of entries and erase from `m` those whose value passes the test. -/
def eraseLoop (p : ν → Bool) (entries : List (Sigma fun _ : κ => ν))
    (m : AList fun _ : κ => ν) : AList fun _ : κ => ν :=
  entries.foldl (fun m e => if p e.2 then m.erase e.1 else m) m

theorem lookup_eraseLoop (p : ν → Bool) (entries : List (Sigma fun _ : κ => ν))
    (m : AList fun _ : κ => ν) (k : κ) :
    (eraseLoop p entries m).lookup k =
      if ∃ e ∈ entries, e.1 = k ∧ p e.2 then none else m.lookup k := by
  induction entries generalizing m with
  | nil => simp [eraseLoop]
  | cons e entries ih =>
    have hstep : (eraseLoop p (e :: entries) m) =
        eraseLoop p entries (if p e.2 then m.erase e.1 else m) := rfl
    rw [hstep, ih]
    by_cases hrest : ∃ e' ∈ entries, e'.1 = k ∧ p e'.2
    · simp [hrest]
    · by_cases hp : p e.2 <;> by_cases hk : e.1 = k
      · subst hk; simp [hp, hrest]
      · simp [hp, hk, hrest, AList.lookup_erase_ne (Ne.symm hk)]
      · simp [hp, hrest]
      · simp [hp, hrest]

/-- The loop over all entries of a map leaves exactly the entries that fail the test. -/
theorem lookup_eraseLoop_entries (p : ν → Bool) (m : AList fun _ : κ => ν) (k : κ) :
    (eraseLoop p m.entries m).lookup k = (m.lookup k).filter (fun v => !p v) := by
  rw [lookup_eraseLoop]
  cases h : m.lookup k with
  | none => simp
  | some v =>
    have hv : (⟨k, v⟩ : Sigma fun _ : κ => ν) ∈ m.entries := AList.mem_lookup_iff.mp h
    have honly : (∃ e ∈ m.entries, e.1 = k ∧ p e.2 = true) ↔ p v = true := by
      constructor
      · rintro ⟨⟨k', v'⟩, he, hk, hp⟩
        subst hk
        have hv' : m.lookup k' = some v' := AList.mem_lookup_iff.mpr he
        rw [h] at hv'
        cases hv'
        exact hp
      · exact fun hp => ⟨_, hv, rfl, hp⟩
    simp only [honly]
    cases hp : p v <;> simp [Option.filter, hp]

end EraseLoop

end Foundation
