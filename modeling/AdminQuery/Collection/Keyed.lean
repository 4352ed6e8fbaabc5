/-!
# Lists with keys

A list whose entries carry a key, in order of first insertion.  Inserting a held key replaces the
entry where it stands.

* `Keyed.get?`: the entry of a key
* `Keyed.upsert`: replaces in place, or appends
* `Keyed.erase`: removes the entry of a key
* `Keyed.place?`: where the entry of a key stands

Main statements: `get?_upsert_self` and `get?_upsert_of_ne` say what is found after an insertion, and
`map_key_upsert` and `map_key_erase` how the keys and their order change.  `upsert_of_get?_eq_some` and
`upsert_of_get?_eq_none` say where an entry goes, and `erase_eq_filter` what a removal leaves.  The same
changes at a place are `upsert_of_place?` and `erase_of_place?`.  By `eq_of_get?_eq` a list is known by its
keys and what is found under them.
-/

namespace AdminQuery.Keyed

variable {α κ : Type} [DecidableEq κ]

/-- The first entry with the key `k`. -/
def get? (key : α → κ) (entries : List α) (k : κ) : Option α :=
  entries.find? fun entry => key entry = k

/-- Replaces the first entry that has the key of `entry`, or appends `entry`. -/
def upsert (key : α → κ) (entry : α) : List α → List α
  | [] => [entry]
  | held :: rest => if key held = key entry then entry :: rest else held :: upsert key entry rest

/-- Removes the first entry with the key `k`. -/
def erase (key : α → κ) (k : κ) : List α → List α
  | [] => []
  | held :: rest => if key held = k then rest else held :: erase key k rest

/-- The keys after an insertion: the same, or with one more at the end. -/
theorem map_key_upsert (key : α → κ) (entry : α) (entries : List α) :
    (upsert key entry entries).map key =
      if key entry ∈ entries.map key then entries.map key else entries.map key ++ [key entry] := by
  induction entries with
  | nil => simp [upsert]
  | cons held rest ih =>
    by_cases h : key held = key entry
    · simp [upsert, h]
    · have h' : key entry ≠ key held := fun e => h e.symm
      by_cases hm : key entry ∈ rest.map key <;> simp_all [upsert]

/-- An entry that is found has the key it was looked for by. -/
theorem key_of_get? {key : α → κ} {entries : List α} {k : κ} {entry : α}
    (h : get? key entries k = some entry) : key entry = k := by
  simpa using List.find?_some h

/-- Nothing is found under a key that no entry has. -/
theorem get?_eq_none_iff {key : α → κ} {entries : List α} {k : κ} :
    get? key entries k = none ↔ k ∉ entries.map key := by
  simp [get?]

/-- Something is found under the keys that entries have. -/
theorem isSome_get?_iff {key : α → κ} {entries : List α} {k : κ} :
    (get? key entries k).isSome = true ↔ k ∈ entries.map key := by
  simp [get?]

/-- An entry whose key is held takes the place of the entry that was found. -/
theorem upsert_of_get?_eq_some {key : α → κ} {entry held : α} {entries : List α}
    (h : get? key entries (key entry) = some held) :
    ∃ before after, entries = before ++ held :: after ∧
      upsert key entry entries = before ++ entry :: after := by
  induction entries with
  | nil => cases h
  | cons first rest ih =>
    by_cases hkey : key first = key entry
    · have hheld : first = held := by simpa [get?, hkey] using h
      subst hheld
      exact ⟨[], rest, rfl, by simp [upsert, hkey]⟩
    · have hrest : get? key rest (key entry) = some held := by simpa [get?, hkey] using h
      obtain ⟨before, after, hentries, hupsert⟩ := ih hrest
      exact ⟨first :: before, after, by rw [hentries]; rfl, by rw [upsert, if_neg hkey, hupsert]; rfl⟩

/-- An entry whose key is not held goes to the end. -/
theorem upsert_of_get?_eq_none {key : α → κ} {entry : α} {entries : List α}
    (h : get? key entries (key entry) = none) : upsert key entry entries = entries ++ [entry] := by
  induction entries with
  | nil => rfl
  | cons first rest ih =>
    rw [get?_eq_none_iff, List.map_cons, List.mem_cons, not_or] at h
    rw [upsert, if_neg (Ne.symm h.1), ih (get?_eq_none_iff.2 h.2)]
    rfl

/-- The entry just inserted is found. -/
theorem get?_upsert_self (key : α → κ) (entry : α) (entries : List α) :
    get? key (upsert key entry entries) (key entry) = some entry := by
  induction entries with
  | nil => simp [upsert, get?]
  | cons held rest ih =>
    by_cases h : key held = key entry
    · simp [upsert, get?, h]
    · simp only [get?] at ih
      simp [upsert, get?, h, ih]

/-- An insertion leaves the entries of other keys alone. -/
theorem get?_upsert_of_ne {key : α → κ} {entry : α} {k : κ} (h : key entry ≠ k) (entries : List α) :
    get? key (upsert key entry entries) k = get? key entries k := by
  induction entries with
  | nil => simp [upsert, get?, h]
  | cons held rest ih =>
    simp only [get?] at ih
    by_cases hk : key held = key entry
    · simp [upsert, get?, hk, h]
    · by_cases hh : key held = k
      · simp [upsert, get?, hh, Ne.symm h]
      · simp [upsert, get?, hk, hh, ih]

/-- The keys after a removal. -/
theorem map_key_erase (key : α → κ) (k : κ) (entries : List α) :
    (erase key k entries).map key = (entries.map key).erase k := by
  induction entries with
  | nil => rfl
  | cons held rest ih =>
    by_cases h : key held = k
    · simp [erase, h]
    · simp [erase, h, ih]

/-- Where keys are distinct, a removal leaves all other entries, in order. -/
theorem erase_eq_filter {key : α → κ} {k : κ} {entries : List α} (h : (entries.map key).Nodup) :
    erase key k entries = entries.filter fun entry => key entry ≠ k := by
  induction entries with
  | nil => rfl
  | cons held rest ih =>
    rw [List.map_cons, List.nodup_cons] at h
    by_cases hk : key held = k
    · have hrest : rest.filter (fun entry => key entry ≠ k) = rest := by
        rw [List.filter_eq_self]
        intro entry hentry
        have hne : key entry ≠ k := by
          rintro rfl
          exact h.1 (hk ▸ List.mem_map_of_mem hentry)
        simpa using hne
      rw [erase, if_pos hk, List.filter_cons_of_neg (by simpa using hk), hrest]
    · simp [erase, hk, ih h.2]

/-- Where keys are distinct, nothing is found under a key that was removed. -/
theorem get?_erase_self {key : α → κ} {k : κ} {entries : List α} (h : (entries.map key).Nodup) :
    get? key (erase key k entries) k = none := by
  rw [get?_eq_none_iff, map_key_erase]
  exact h.not_mem_erase

/-- A removal leaves the entries of other keys alone. -/
theorem get?_erase_of_ne {key : α → κ} {k l : κ} (h : k ≠ l) (entries : List α) :
    get? key (erase key k entries) l = get? key entries l := by
  induction entries with
  | nil => rfl
  | cons held rest ih =>
    simp only [get?] at ih
    by_cases hk : key held = k
    · simp [erase, get?, hk, h]
    · by_cases hl : key held = l
      · simp [erase, get?, hl, Ne.symm h]
      · simp [erase, get?, hk, hl, ih]

/-- Lists with the same distinct keys, under which the same entries are found, are the same. -/
theorem eq_of_get?_eq {key : α → κ} {entries others : List α}
    (hkeys : entries.map key = others.map key) (hnodup : (entries.map key).Nodup)
    (h : ∀ k, get? key entries k = get? key others k) : entries = others := by
  induction entries generalizing others with
  | nil => exact (List.map_eq_nil_iff.1 hkeys.symm).symm
  | cons entry rest ih =>
    cases others with
    | nil => cases hkeys
    | cons other rest' =>
      obtain ⟨hkey, hrest⟩ := List.cons.inj hkeys
      obtain ⟨hnew, hnodup⟩ := List.nodup_cons.1 hnodup
      have hentry : entry = other := by
        have hfirst := h (key entry)
        simpa [get?, hkey] using hfirst
      subst hentry
      rw [ih hrest hnodup]
      intro k
      by_cases hk : key entry = k
      · subst hk
        rw [get?_eq_none_iff.2 hnew, get?_eq_none_iff.2 (hrest ▸ hnew)]
      · simpa [get?, hk] using h k

/-! ### Changes at a place -/

/-- The place of the first entry with the key `k`. -/
def place? (key : α → κ) (entries : List α) (k : κ) : Option Nat :=
  entries.findIdx? fun entry => key entry = k

theorem place?_cons (key : α → κ) (held : α) (rest : List α) (k : κ) :
    place? key (held :: rest) k =
      if key held = k then some 0 else (place? key rest k).map (· + 1) := by
  simp [place?, List.findIdx?_cons]

/-- Without a place there is no entry. -/
theorem get?_of_place?_eq_none {key : α → κ} {entries : List α} {k : κ}
    (h : place? key entries k = none) : get? key entries k = none := by
  rw [get?, List.find?_eq_none]
  simpa [place?] using h

/-- The entry that is found stands at its place. -/
theorem get?_of_place? {key : α → κ} {entries : List α} {k : κ} {place : Nat}
    (h : place? key entries k = some place) : ∃ held, entries[place]? = some held ∧
      get? key entries k = some held := by
  induction entries generalizing place with
  | nil => cases h
  | cons held rest ih =>
    rw [place?_cons] at h
    split at h
    · rename_i hkey
      cases h
      exact ⟨held, rfl, by simp [get?, hkey]⟩
    · rename_i hkey
      obtain ⟨earlier, hplace, rfl⟩ := Option.map_eq_some_iff.1 h
      obtain ⟨found, hfound, hget⟩ := ih hplace
      exact ⟨found, hfound, by simpa [get?, hkey] using hget⟩

/-- An entry whose key is held is written at that place. -/
theorem upsert_of_place? {key : α → κ} {entry : α} {entries : List α} {place : Nat}
    (h : place? key entries (key entry) = some place) :
    upsert key entry entries = entries.set place entry := by
  induction entries generalizing place with
  | nil => cases h
  | cons held rest ih =>
    rw [place?_cons] at h
    split at h
    · rename_i hkey
      cases h
      rw [upsert, if_pos hkey]
      rfl
    · rename_i hkey
      obtain ⟨earlier, hplace, rfl⟩ := Option.map_eq_some_iff.1 h
      rw [upsert, if_neg hkey, ih hplace]
      rfl

/-- A removal takes out what stands at that place. -/
theorem erase_of_place? {key : α → κ} {entries : List α} {k : κ} {place : Nat}
    (h : place? key entries k = some place) : erase key k entries = entries.eraseIdx place := by
  induction entries generalizing place with
  | nil => cases h
  | cons held rest ih =>
    rw [place?_cons] at h
    split at h
    · rename_i hkey
      cases h
      rw [erase, if_pos hkey]
      rfl
    · rename_i hkey
      obtain ⟨earlier, hplace, rfl⟩ := Option.map_eq_some_iff.1 h
      rw [erase, if_neg hkey, ih hplace]
      rfl

/-- A removal of a key that no entry has changes nothing. -/
theorem erase_of_get?_eq_none {key : α → κ} {entries : List α} {k : κ}
    (h : get? key entries k = none) : erase key k entries = entries := by
  induction entries with
  | nil => rfl
  | cons held rest ih =>
    rw [get?_eq_none_iff, List.map_cons, List.mem_cons, not_or] at h
    rw [erase, if_neg (Ne.symm h.1), ih (get?_eq_none_iff.2 h.2)]

end AdminQuery.Keyed
