set_option autoImplicit false

/- Keyed entries in order of first insertion. `insert` is the only way the library adds a
   key, so keys stay distinct and keep their places. -/
namespace ShapeCheck

abbrev Entries (α : Type) := List (String × α)

namespace Entries

variable {α : Type}

def keys (entries : Entries α) : List String :=
  entries.map Prod.fst

def get? (key : String) : Entries α → Option α
  | [] => none
  | (name, value) :: rest => if name = key then some value else get? key rest

def insert (key : String) (value : α) : Entries α → Entries α
  | [] => [(key, value)]
  | (name, old) :: rest =>
      if name = key then (name, value) :: rest else (name, old) :: insert key value rest

def ofPairs (pairs : List (String × α)) : Entries α :=
  pairs.foldl (fun entries pair => insert pair.1 pair.2 entries) []

theorem get_insert (key query : String) (value : α) (entries : Entries α) :
    get? query (insert key value entries) = if query = key then some value else get? query entries := by
  induction entries with
  | nil => simp [insert, get?, eq_comm]
  | cons entry rest ih =>
      rcases entry with ⟨name, old⟩
      by_cases same : name = key
      · subst same
        by_cases hit : query = name
        · simp [insert, get?, hit]
        · simp [insert, get?, hit, Ne.symm hit]
      · by_cases hit : name = query
        · subst hit
          simp [insert, get?, same]
        · simp [insert, get?, same, hit, ih]

theorem keys_insert (key : String) (value : α) (entries : Entries α) :
    keys (insert key value entries) =
      if key ∈ keys entries then keys entries else keys entries ++ [key] := by
  induction entries with
  | nil => simp [insert, keys]
  | cons entry rest ih =>
      rcases entry with ⟨name, old⟩
      by_cases same : name = key
      · subst same
        simp [insert, keys]
      · simp only [insert, if_neg same]
        simp only [keys, List.map_cons, List.mem_cons, Ne.symm same, false_or] at ih ⊢
        rw [ih]
        by_cases known : key ∈ rest.map Prod.fst <;> simp [known]

theorem insert_keys_distinct (key : String) (value : α) (entries : Entries α)
    (distinct : (keys entries).Nodup) : (keys (insert key value entries)).Nodup := by
  rw [keys_insert]
  by_cases known : key ∈ keys entries
  · rwa [if_pos known]
  · rw [if_neg known]
    refine List.nodup_append.mpr ⟨distinct, by simp, ?_⟩
    intro old present fresh here same
    rw [List.mem_singleton] at here
    exact known (here ▸ same ▸ present)

theorem get_mem (key : String) (value : α) (entries : Entries α) (found : get? key entries = some value) :
    (key, value) ∈ entries := by
  induction entries with
  | nil => simp [get?] at found
  | cons entry rest ih =>
      rcases entry with ⟨name, old⟩
      by_cases same : name = key
      · simp only [get?, if_pos same, Option.some.injEq] at found
        simp [same, found]
      · simp only [get?, if_neg same] at found
        exact List.mem_cons_of_mem _ (ih found)

end Entries

end ShapeCheck
