/-!
# Ordered associations

A list of bindings of texts, each text once, in the order in which they were first bound.
-/

namespace DialogGraph.Assoc

/-- The value bound to a key. -/
def get? {α : Type} (entries : List (String × α)) (key : String) : Option α :=
  match entries with
  | [] => none
  | (k, a) :: rest => if k = key then some a else get? rest key

def contains {α : Type} (entries : List (String × α)) (key : String) : Bool :=
  (get? entries key).isSome

/-- Binds a key: in its place if it is bound already, at the end otherwise. -/
def insert {α : Type} (entries : List (String × α)) (key : String) (a : α) : List (String × α) :=
  match entries with
  | [] => [(key, a)]
  | (k, b) :: rest => if k = key then (k, a) :: rest else (k, b) :: insert rest key a

def erase {α : Type} (entries : List (String × α)) (key : String) : List (String × α) :=
  entries.filter fun entry => entry.1 != key

/-- Changes the value at a key, if it is bound. -/
def modify {α : Type} (entries : List (String × α)) (key : String) (f : α → α) :
    List (String × α) :=
  entries.map fun entry => if entry.1 = key then (entry.1, f entry.2) else entry

/-- Collects bindings in order; a later one for the same key replaces the value in place. -/
def ofList {α : Type} (bindings : List (String × α)) : List (String × α) :=
  bindings.foldl (fun entries binding => insert entries binding.1 binding.2) []

def keys {α : Type} (entries : List (String × α)) : List String := entries.map Prod.fst

theorem get?_insert {α : Type} (entries : List (String × α)) (key other : String) (a : α) :
    get? (insert entries key a) other = if key = other then some a else get? entries other := by
  induction entries with
  | nil => simp [insert, get?]
  | cons entry rest ih =>
    obtain ⟨k, b⟩ := entry
    by_cases hk : k = key
    · subst hk
      by_cases ho : k = other <;> simp [insert, get?, ho]
    · by_cases ho : k = other
      · subst ho
        simp [insert, get?, hk, Ne.symm hk]
      · simp [insert, get?, hk, ho, ih]

theorem get?_eq_none_iff {α : Type} {entries : List (String × α)} {key : String} :
    get? entries key = none ↔ key ∉ keys entries := by
  induction entries with
  | nil => simp [get?, keys]
  | cons entry rest ih =>
    obtain ⟨k, a⟩ := entry
    by_cases hk : k = key
    · simp [get?, keys, hk]
    · simpa [get?, keys, hk, Ne.symm hk] using ih

theorem contains_iff_mem_keys {α : Type} {entries : List (String × α)} {key : String} :
    contains entries key = true ↔ key ∈ keys entries := by
  rw [contains, Option.isSome_iff_ne_none, ne_eq, get?_eq_none_iff, Decidable.not_not]

/-- Binding a key that is bound already keeps the keys and their order. -/
theorem keys_insert_of_mem {α : Type} {entries : List (String × α)} {key : String}
    (hkey : key ∈ keys entries) (a : α) :
    keys (insert entries key a) = keys entries := by
  induction entries with
  | nil => simp [keys] at hkey
  | cons entry rest ih =>
    obtain ⟨k, b⟩ := entry
    by_cases hk : k = key
    · simp [insert, keys, hk]
    · have hrest : key ∈ keys rest := by simpa [keys, Ne.symm hk] using hkey
      simpa [insert, keys, hk] using ih hrest

theorem modify_of_notMem {α : Type} {entries : List (String × α)} {key : String}
    (hkey : key ∉ keys entries) (f : α → α) : modify entries key f = entries := by
  induction entries with
  | nil => rfl
  | cons entry rest ih =>
    obtain ⟨hfirst, hrest⟩ : key ≠ entry.1 ∧ key ∉ keys rest := by simpa [keys] using hkey
    rw [modify, List.map_cons, if_neg (Ne.symm hfirst)]
    exact congrArg (entry :: ·) (ih hrest)

/-- Where each key is bound once, binding one of them changes its value and nothing else. -/
theorem insert_eq_modify {α : Type} {entries : List (String × α)} (hnodup : (keys entries).Nodup)
    {key : String} (hkey : key ∈ keys entries) (a : α) :
    insert entries key a = modify entries key fun _ => a := by
  induction entries with
  | nil => simp [keys] at hkey
  | cons entry rest ih =>
    obtain ⟨k, b⟩ := entry
    obtain ⟨hk, hrest⟩ : k ∉ keys rest ∧ (keys rest).Nodup := by simpa [keys] using hnodup
    have hmodify : modify ((k, b) :: rest) key (fun _ => a) =
        (if k = key then (k, a) else (k, b)) :: modify rest key fun _ => a := rfl
    by_cases hsame : k = key
    · rw [insert, hmodify, if_pos hsame, if_pos hsame, modify_of_notMem (hsame ▸ hk)]
    · have hmem : key ∈ keys rest := by simpa [keys, Ne.symm hsame] using hkey
      rw [insert, hmodify, if_neg hsame, if_neg hsame, ih hrest hmem]

/-- Binding a key that is not bound yet adds it at the end. -/
theorem insert_of_notMem {α : Type} {entries : List (String × α)} {key : String}
    (hkey : key ∉ keys entries) (a : α) : insert entries key a = entries ++ [(key, a)] := by
  induction entries with
  | nil => rfl
  | cons entry rest ih =>
    obtain ⟨k, b⟩ := entry
    obtain ⟨hk, hrest⟩ : key ≠ k ∧ key ∉ keys rest := by simpa [keys] using hkey
    rw [insert, if_neg (Ne.symm hk), ih hrest, List.cons_append]

theorem nodup_keys_insert {α : Type} {entries : List (String × α)}
    (hnodup : (keys entries).Nodup) (key : String) (a : α) :
    (keys (insert entries key a)).Nodup := by
  by_cases hkey : key ∈ keys entries
  · rwa [keys_insert_of_mem hkey]
  · rw [insert_of_notMem hkey, keys, List.map_append, List.nodup_append]
    refine ⟨hnodup, by simp, ?_⟩
    intro name hname other hother hsame
    obtain rfl : other = key := List.mem_singleton.1 hother
    exact hkey (hsame ▸ hname)

/-- Whatever bindings are collected, each key is bound once. -/
theorem nodup_keys_ofList {α : Type} (bindings : List (String × α)) :
    (keys (ofList bindings)).Nodup := by
  suffices hfrom : ∀ entries : List (String × α), (keys entries).Nodup →
      (keys (bindings.foldl (fun entries binding => insert entries binding.1 binding.2)
        entries)).Nodup from hfrom [] List.nodup_nil
  induction bindings with
  | nil => exact fun _ hnodup => hnodup
  | cons binding rest ih => exact fun entries hnodup => ih _ (nodup_keys_insert hnodup _ _)

/-- Bindings of different keys are collected as they are. -/
theorem ofList_of_nodup {α : Type} {bindings : List (String × α)}
    (hnodup : (keys bindings).Nodup) : ofList bindings = bindings := by
  suffices hfrom : ∀ entries, (keys (entries ++ bindings)).Nodup →
      bindings.foldl (fun entries binding => insert entries binding.1 binding.2) entries =
        entries ++ bindings from hfrom [] hnodup
  clear hnodup
  induction bindings with
  | nil => simp
  | cons binding rest ih =>
    intro entries hnodup
    have hkey : binding.1 ∉ keys entries := by
      intro hmem
      rw [keys, List.map_append, List.nodup_append] at hnodup
      exact hnodup.2.2 _ hmem _ List.mem_cons_self rfl
    rw [List.foldl_cons, insert_of_notMem hkey, ih, List.append_assoc, List.singleton_append]
    rwa [List.append_assoc, List.singleton_append]

@[simp]
theorem keys_map_pair {α : Type} (names : List String) (f : String → α) :
    keys (names.map fun name => (name, f name)) = names := by
  simp [keys, Function.comp_def]

theorem get?_map_pair {α : Type} (names : List String) (f : String → α) (key : String) :
    get? (names.map fun name => (name, f name)) key =
      if key ∈ names then some (f key) else none := by
  induction names with
  | nil => rfl
  | cons name rest ih =>
    by_cases hname : name = key
    · simp [get?, hname]
    · simp [get?, hname, Ne.symm hname, ih]

/-- Where each key is bound once, an entry is found under its key. -/
theorem get?_of_mem {α : Type} {entries : List (String × α)} (hnodup : (keys entries).Nodup)
    {key : String} {a : α} (hmem : (key, a) ∈ entries) : get? entries key = some a := by
  induction entries with
  | nil => cases hmem
  | cons entry rest ih =>
    obtain ⟨k, b⟩ := entry
    obtain ⟨hk, hrest⟩ : k ∉ keys rest ∧ (keys rest).Nodup := by simpa [keys] using hnodup
    rcases List.mem_cons.1 hmem with hhead | htail
    · cases hhead
      simp [get?]
    · have hne : k ≠ key := by
        rintro rfl
        exact hk (List.mem_map_of_mem htail)
      rw [get?, if_neg hne]
      exact ih hrest htail

/-- Among the bindings whose keys pass a test, a key that passes is bound as before. -/
theorem get?_filter {α : Type} (entries : List (String × α)) (keep : String → Bool)
    (key : String) :
    get? (entries.filter fun entry => keep entry.1) key =
      if keep key then get? entries key else none := by
  induction entries with
  | nil => simp [get?]
  | cons entry rest ih =>
    obtain ⟨k, a⟩ := entry
    by_cases hk : k = key
    · subst hk
      cases hkeep : keep k <;> simp [get?, hkeep, ih]
    · cases hkeep : keep k <;> simp [get?, hkeep, hk, ih]

/-- What is found under a key is one of the entries. -/
theorem mem_of_get? {α : Type} {entries : List (String × α)} {key : String} {a : α}
    (hfound : get? entries key = some a) : (key, a) ∈ entries := by
  induction entries with
  | nil => cases hfound
  | cons entry rest ih =>
    obtain ⟨k, b⟩ := entry
    rw [get?] at hfound
    split at hfound
    next hsame =>
      cases hfound
      exact hsame ▸ List.mem_cons_self
    next => exact List.mem_cons_of_mem _ (ih hfound)

/-- The value bound to a key among entries that are joined: that of the first list, if there is
one. -/
theorem get?_append {α : Type} (entries others : List (String × α)) (key : String) :
    get? (entries ++ others) key = (get? entries key).or (get? others key) := by
  induction entries with
  | nil => simp [get?]
  | cons entry rest ih =>
    obtain ⟨k, a⟩ := entry
    by_cases hk : k = key <;> simp [get?, hk, ih]

/-- Associations with the same keys in the same order, each once, are determined by their values. -/
theorem ext_get? {α : Type} {entries others : List (String × α)}
    (hkeys : keys entries = keys others) (hnodup : (keys entries).Nodup)
    (hget : ∀ key ∈ keys entries, get? entries key = get? others key) : entries = others := by
  induction entries generalizing others with
  | nil =>
    cases others with
    | nil => rfl
    | cons other others => simp [keys] at hkeys
  | cons entry rest ih =>
    obtain ⟨k, a⟩ := entry
    match others, hkeys, hget with
    | (l, b) :: others, hkeys, hget =>
      obtain ⟨rfl, hrest⟩ : k = l ∧ keys rest = keys others := by simpa [keys] using hkeys
      obtain ⟨hk, hnodup⟩ : k ∉ keys rest ∧ (keys rest).Nodup := by
        simpa [keys] using hnodup
      have hvalue : a = b := by simpa [get?] using hget k (by simp [keys])
      have htail : rest = others := by
        apply ih hrest hnodup
        intro key hkey
        have hne : k ≠ key := fun h => hk (h ▸ hkey)
        have hmem : key ∈ keys ((k, a) :: rest) := List.mem_cons_of_mem _ hkey
        simpa [get?, hne] using hget key hmem
      rw [hvalue, htail]

end DialogGraph.Assoc
