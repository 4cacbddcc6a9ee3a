import FrameFeed.Decimal.Binary64
/-!
# JSON values

An object's members stand in ascending order of their keys, each key once: `insert` puts a member at
its place, the last value of a key winning (`lookup?_insert_self`). A number is a whole number
between `-2^63` and `2^64 - 1`, or a finite double.
-/
namespace FrameFeed

inductive Json.Number where
  | int (i : Int)
  | double (b : Binary64)
deriving DecidableEq, Repr, Inhabited

inductive Json where
  | null
  | bool (b : Bool)
  | num (n : Json.Number)
  | str (s : String)
  | arr (items : List Json)
  | obj (members : List (String × Json))
deriving Repr, Inhabited

namespace Json

abbrev Members := List (String × Json)

/-! ## Equality -/

mutual

def decEq : (a b : Json) → Decidable (a = b)
  | .null, .null => isTrue rfl
  | .bool a, .bool b => decidable_of_iff (a = b) (by simp)
  | .num a, .num b => decidable_of_iff (a = b) (by simp)
  | .str a, .str b => decidable_of_iff (a = b) (by simp)
  | .arr a, .arr b => @decidable_of_iff _ (a = b) (by simp) (decEqItems a b)
  | .obj a, .obj b => @decidable_of_iff _ (a = b) (by simp) (decEqMembers a b)
  | .null, .bool _ | .null, .num _ | .null, .str _ | .null, .arr _ | .null, .obj _
  | .bool _, .null | .bool _, .num _ | .bool _, .str _ | .bool _, .arr _ | .bool _, .obj _
  | .num _, .null | .num _, .bool _ | .num _, .str _ | .num _, .arr _ | .num _, .obj _
  | .str _, .null | .str _, .bool _ | .str _, .num _ | .str _, .arr _ | .str _, .obj _
  | .arr _, .null | .arr _, .bool _ | .arr _, .num _ | .arr _, .str _ | .arr _, .obj _
  | .obj _, .null | .obj _, .bool _ | .obj _, .num _ | .obj _, .str _ | .obj _, .arr _ =>
    isFalse nofun

def decEqItems : (a b : List Json) → Decidable (a = b)
  | [], [] => isTrue rfl
  | [], _ :: _ | _ :: _, [] => isFalse nofun
  | x :: xs, y :: ys =>
    match decEq x y, decEqItems xs ys with
    | isTrue h, isTrue hs => isTrue (by rw [h, hs])
    | isFalse h, _ => isFalse fun e => h (List.cons.inj e).1
    | _, isFalse hs => isFalse fun e => hs (List.cons.inj e).2

def decEqMembers : (a b : Members) → Decidable (a = b)
  | [], [] => isTrue rfl
  | [], _ :: _ | _ :: _, [] => isFalse nofun
  | (k, x) :: xs, (l, y) :: ys =>
    match (inferInstance : Decidable (k = l)), decEq x y, decEqMembers xs ys with
    | isTrue hk, isTrue h, isTrue hs => isTrue (by rw [hk, h, hs])
    | isFalse hk, _, _ => isFalse fun e => hk (Prod.mk.inj (List.cons.inj e).1).1
    | _, isFalse h, _ => isFalse fun e => h (Prod.mk.inj (List.cons.inj e).1).2
    | _, _, isFalse hs => isFalse fun e => hs (List.cons.inj e).2

end

instance : DecidableEq Json := decEq

/-! ## Objects -/

/-- The members with `k` given the value `v`. -/
def insert (k : String) (v : Json) : Members → Members
  | [] => [(k, v)]
  | (l, w) :: ms =>
    if k < l then (k, v) :: (l, w) :: ms
    else if k = l then (k, v) :: ms
    else (l, w) :: insert k v ms

/-- The members that a run of assignments leaves, the last of each key. -/
def ofMembers (ms : Members) : Members := ms.foldl (fun acc m => insert m.1 m.2 acc) []

/-- The value of a key. -/
def lookup? (k : String) (ms : Members) : Option Json := (ms.find? (·.1 = k)).map (·.2)

/-- The value of a key of an object. -/
def get? (k : String) : Json → Option Json
  | .obj ms => lookup? k ms
  | _ => none

theorem lookup?_insert_self (k : String) (v : Json) (ms : Members) :
    lookup? k (insert k v ms) = some v := by
  induction ms with
  | nil => simp [insert, lookup?]
  | cons m ms ih =>
    obtain ⟨l, w⟩ := m
    unfold insert
    split
    · simp [lookup?]
    split
    · simp [lookup?]
    · rename_i h
      simp only [lookup?, List.find?_cons, Ne.symm h, decide_false] at ih ⊢
      exact ih

/-- An object of texts. -/
def texts (ms : List (String × String)) : Json := .obj (ofMembers (ms.map fun m => (m.1, .str m.2)))

/-! ## Nesting -/

mutual

/-- How many arrays and objects stand inside each other at most. -/
def depth : Json → Nat
  | .arr items => depthItems items + 1
  | .obj ms => depthMembers ms + 1
  | _ => 0

def depthItems : List Json → Nat
  | [] => 0
  | v :: vs => max (depth v) (depthItems vs)

def depthMembers : Members → Nat
  | [] => 0
  | (_, v) :: ms => max (depth v) (depthMembers ms)

end

end Json
end FrameFeed
