/-!
# Dictionaries

A `Dict` binds text keys to values, each key once, in increasing order of the keys' code points.

* `Entries bound` are bindings whose keys come after each other and after the bound, if there is one. Bindings out of
  order, or two of one key, cannot be put together.
* `insert` binds a key in its place, `get?` looks a key up, `erase` drops it, `toList` lists the bindings.
* `Entries.ext`: dictionaries that bind the same keys to the same values are equal.
* `Dict.pairwise_toList`: the bindings are listed in order.
-/

namespace Hypertext

/-- Without a bound every key is free, and with one those that come after it. -/
def After : Option String → String → Prop
  | none, _ => True
  | some bound, key => bound < key

/-- Bindings in increasing order of their keys, all of them after the bound. -/
inductive Entries (α : Type) : Option String → Type where
  | nil {bound : Option String} : Entries α bound
  | cons {bound : Option String} (key : String) (value : α) (after : After bound key)
      (rest : Entries α (some key)) : Entries α bound

/-- Values under text keys, sorted by key. -/
abbrev Dict (α : Type) := Entries α none

theorem After.start (key : String) : After none key :=
  trivial

theorem After.trans {bound : Option String} {key key' : String} (h : After bound key) (h' : key < key') :
    After bound key' := by
  cases bound with
  | none => exact trivial
  | some bound => exact String.lt_trans h h'

/-- Of two keys one comes first, unless they are the same. -/
theorem key_lt_of_not {key key' : String} (hne : ¬ key = key') (hless : ¬ key < key') : key' < key := by
  rw [← String.not_le]
  exact fun hle => hne (String.le_antisymm hle (String.not_lt.mp hless))

namespace Entries

variable {α : Type} {bound : Option String}

/-- The value bound to the key. -/
def get? {bound : Option String} (key : String) : Entries α bound → Option α
  | nil => none
  | cons k v _ rest => if key = k then some v else get? key rest

/-- Binds the key to the value, in place of what it was bound to. -/
def insert {bound : Option String} (key : String) (value : α) (h : After bound key) :
    Entries α bound → Entries α bound
  | nil => cons key value h nil
  | cons k v after rest =>
    if heq : key = k then cons k value after rest
    else if hless : key < k then cons key value h (cons k v hless rest)
    else cons k v after (insert key value (key_lt_of_not heq hless) rest)

/-- The same bindings under an earlier bound. -/
def widen {bound : Option String} {key : String} (h : After bound key) : Entries α (some key) → Entries α bound
  | nil => nil
  | cons k v after rest => cons k v (h.trans after) rest

/-- The bindings without that of the key. -/
def erase {bound : Option String} (key : String) : Entries α bound → Entries α bound
  | nil => nil
  | cons k v after rest => if key = k then rest.widen after else cons k v after (erase key rest)

/-- The bindings as pairs. -/
def toList {bound : Option String} : Entries α bound → List (String × α)
  | nil => []
  | cons k v _ rest => (k, v) :: toList rest

@[simp] theorem get?_nil (key : String) : (nil : Entries α bound).get? key = none := rfl

theorem get?_cons_self (key : String) (v : α) (after : After bound key) (rest : Entries α (some key)) :
    (cons key v after rest).get? key = some v := if_pos rfl

theorem get?_cons_of_ne {key k : String} (h : key ≠ k) (v : α) (after : After bound k) (rest : Entries α (some k)) :
    (cons k v after rest).get? key = rest.get? key := if_neg h

/-- Nothing is bound that does not come after the bound. -/
theorem get?_of_not_after {key : String} (h : ¬ After bound key) (d : Entries α bound) : d.get? key = none := by
  induction d with
  | nil => rfl
  | cons k v after rest ih =>
    have hne : key ≠ k := fun heq => h (heq ▸ after)
    rw [get?_cons_of_ne hne]
    exact ih fun hless => h (after.trans hless)

/-- A key is bound once only. -/
theorem get?_rest_self (key : String) (rest : Entries α (some key)) : rest.get? key = none :=
  have h : ¬ After (some key) key := String.lt_irrefl key
  get?_of_not_after h rest

theorem get?_widen {key : String} (h : After bound key) (d : Entries α (some key)) (other : String) :
    (d.widen h).get? other = d.get? other := by
  cases d <;> rfl

theorem get?_insert_self (key : String) (value : α) (h : After bound key) (d : Entries α bound) :
    (d.insert key value h).get? key = some value := by
  induction d with
  | nil => exact get?_cons_self key value h nil
  | cons k v after rest ih =>
    unfold insert
    split
    · rename_i heq
      subst heq
      exact get?_cons_self key value after rest
    · split
      · exact get?_cons_self key value h _
      · rename_i hne hless
        rw [get?_cons_of_ne hne]
        exact ih _

theorem get?_insert_of_ne {key other : String} (hne : other ≠ key) (value : α) (h : After bound key)
    (d : Entries α bound) : (d.insert key value h).get? other = d.get? other := by
  induction d with
  | nil => exact get?_cons_of_ne hne value h nil
  | cons k v after rest ih =>
    unfold insert
    split
    · rename_i heq
      have hother : other ≠ k := heq ▸ hne
      rw [get?_cons_of_ne hother, get?_cons_of_ne hother]
    · split
      · exact get?_cons_of_ne hne value h _
      · rename_i hkey hless
        have hrest := ih (key_lt_of_not hkey hless)
        unfold get?
        rw [hrest]

theorem get?_erase_self (key : String) (d : Entries α bound) : (d.erase key).get? key = none := by
  induction d with
  | nil => rfl
  | cons k v after rest ih =>
    unfold erase
    split
    · rename_i heq
      rw [get?_widen, heq]
      exact get?_rest_self k rest
    · rename_i hne
      rw [get?_cons_of_ne hne, ih]

theorem get?_erase_of_ne {key other : String} (hne : other ≠ key) (d : Entries α bound) :
    (d.erase key).get? other = d.get? other := by
  induction d with
  | nil => rfl
  | cons k v after rest ih =>
    unfold erase
    split
    · rename_i heq
      have hother : other ≠ k := heq ▸ hne
      rw [get?_widen, get?_cons_of_ne hother]
    · unfold get?
      rw [ih]

/-- The bindings of a dictionary determine it. -/
theorem ext {d d' : Entries α bound} (h : ∀ key, d.get? key = d'.get? key) : d = d' := by
  induction d with
  | nil =>
    cases d' with
    | nil => rfl
    | cons k v after rest =>
      have hbound := h k
      rw [get?_cons_self] at hbound
      cases hbound
  | cons k v after rest ih =>
    cases d' with
    | nil =>
      have hbound := h k
      rw [get?_cons_self] at hbound
      cases hbound
    | cons k' v' after' rest' =>
      have hkeys : k = k' := by
        -- the smaller of two first keys would be bound on one side only
        rcases Classical.em (k = k') with heq | hne
        · exact heq
        · have hleft := h k
          have hright := h k'
          rw [get?_cons_self, get?_cons_of_ne hne] at hleft
          rw [get?_cons_self, get?_cons_of_ne (Ne.symm hne)] at hright
          rcases Classical.em (k < k') with hless | hless
          · have hbefore : ¬ After (some k') k := String.lt_asymm hless
            rw [get?_of_not_after hbefore rest'] at hleft
            cases hleft
          · have hbefore : ¬ After (some k) k' := String.lt_asymm (key_lt_of_not hne hless)
            rw [get?_of_not_after hbefore rest] at hright
            cases hright
      subst hkeys
      have hvalue := h k
      rw [get?_cons_self, get?_cons_self] at hvalue
      obtain rfl := Option.some.inj hvalue
      have hrest : rest = rest' := ih fun key => by
        rcases Classical.em (key = k) with rfl | hne
        · rw [get?_rest_self, get?_rest_self]
        · have hkey := h key
          rwa [get?_cons_of_ne hne, get?_cons_of_ne hne] at hkey
      rw [hrest]

theorem after_of_mem_toList {d : Entries α bound} {binding : String × α} (h : binding ∈ d.toList) :
    After bound binding.1 := by
  induction d with
  | nil => cases h
  | cons k v after rest ih =>
    rcases List.mem_cons.mp h with rfl | h
    · exact after
    · exact after.trans (ih h)

/-- The bindings are listed in increasing order of their keys. -/
theorem pairwise_toList (d : Entries α bound) : d.toList.Pairwise fun b b' => b.1 < b'.1 := by
  induction d with
  | nil => exact .nil
  | cons k v after rest ih => exact .cons (fun _ hmem => after_of_mem_toList hmem) ih

end Entries

namespace Dict

variable {α : Type}

/-- The value bound to the key. -/
def get? (key : String) (d : Dict α) : Option α :=
  Entries.get? key d

/-- Binds the key to the value, in place of what it was bound to. -/
def insert (key : String) (value : α) (d : Dict α) : Dict α :=
  Entries.insert key value (.start key) d

/-- The dictionary without the key. -/
def erase (key : String) (d : Dict α) : Dict α :=
  Entries.erase key d

/-- The dictionary of a list of bindings; of two with one key the later stands. -/
def ofList (bindings : List (String × α)) : Dict α :=
  bindings.foldl (fun d (key, value) => d.insert key value) .nil

theorem ext {d d' : Dict α} (h : ∀ key, d.get? key = d'.get? key) : d = d' :=
  Entries.ext h

theorem get?_insert_self (key : String) (value : α) (d : Dict α) : get? key (d.insert key value) = some value :=
  Entries.get?_insert_self key value (.start key) d

theorem get?_insert_of_ne {key other : String} (h : other ≠ key) (value : α) (d : Dict α) :
    get? other (d.insert key value) = get? other d :=
  Entries.get?_insert_of_ne h value (.start key) d

theorem get?_erase_self (key : String) (d : Dict α) : get? key (d.erase key) = none :=
  Entries.get?_erase_self key d

theorem get?_erase_of_ne {key other : String} (h : other ≠ key) (d : Dict α) :
    get? other (d.erase key) = get? other d :=
  Entries.get?_erase_of_ne h d

end Dict

end Hypertext
