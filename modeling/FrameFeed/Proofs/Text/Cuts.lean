import FrameFeed.Text.Blank
import FrameFeed.Text.Parts
import Mathlib.Data.List.DropRight
/-!
# Where texts are cut

What stands after a mark, and around the last of some characters, is found exactly if it is there
(`after?_eq_some`, `splitLast?_eq_some`). `strip` takes all characters of one kind off the front of a text and
all of another off its end, as `trim` does with blanks. It leaves the texts that are `Bare` of them, and it
leaves nothing else.
-/
namespace FrameFeed.Text

variable {c a b : Char} {cs front rest ps : List Char} {opens closes : Char → Bool}

/-! ## At a mark -/

theorem after?_eq_some : after? ps cs = some rest ↔ cs = ps ++ rest := by
  constructor
  · intro h
    fun_induction after? ps cs with
    | case1 cs => rw [Option.some.inj h, List.nil_append]
    | case2 | case4 => cases h
    | case3 p ps cs ih => rw [ih h, List.cons_append]
  · rintro rfl
    exact after?_append ps rest

theorem after?_eq_none : after? ps cs = none ↔ ∀ rest, cs ≠ ps ++ rest := by
  rw [Option.eq_none_iff_forall_ne_some]
  exact forall_congr' fun rest => not_congr after?_eq_some

theorem splitLast?_eq_none : splitLast? c cs = none ↔ c ∉ cs := by
  fun_induction splitLast? c cs with
  | case1 => simp
  | case2 d cs front rest hcs ih =>
    have hmem : c ∈ cs := by
      rw [hcs] at ih
      exact Decidable.not_not.1 fun hc => nomatch ih.2 hc
    simp [hmem]
  | case3 cs _ _ => simp
  | case4 d cs hcs hd ih => simp [ih.1 hcs, Ne.symm hd]

/-- What is found after the last of the characters holds no other. -/
theorem splitLast?_eq_some : splitLast? c cs = some (front, rest) ↔ cs = front ++ c :: rest ∧ c ∉ rest := by
  constructor
  · intro h
    fun_induction splitLast? c cs generalizing front rest with
    | case1 => cases h
    | case2 d cs front rest hcs ih =>
      cases h
      obtain ⟨rfl, hrest⟩ := ih hcs
      exact ⟨rfl, hrest⟩
    | case3 cs hcs _ =>
      cases h
      exact ⟨rfl, splitLast?_eq_none.1 hcs⟩
    | case4 => cases h
  · rintro ⟨rfl, hrest⟩
    induction front with
    | nil => simp [splitLast?, splitLast?_eq_none.2 hrest]
    | cons d front ih => simp [splitLast?, ih]

/-- There is one way to cut a text at the last of the characters. -/
theorem eq_of_last {front' rest' : List Char} (hrest : c ∉ rest) (hrest' : c ∉ rest')
    (h : front ++ c :: rest = front' ++ c :: rest') : front = front' ∧ rest = rest' := by
  have hcut := splitLast?_eq_some.2 ⟨h.symm, hrest⟩
  rw [splitLast?_eq_some.2 ⟨rfl, hrest'⟩] at hcut
  obtain ⟨hfront, hrest⟩ := Prod.mk.inj (Option.some.inj hcut)
  exact ⟨hfront.symm, hrest.symm⟩

theorem splitFirst?_append (h : c ∉ front) (rest : List Char) :
    splitFirst? c (front ++ c :: rest) = some (front, rest) := by
  induction front with
  | nil => simp [splitFirst?]
  | cons d front ih =>
    rw [List.mem_cons, not_or] at h
    rw [List.cons_append, splitFirst?, if_neg (Ne.symm h.1), ih h.2, Option.map_some]

/-! ## At both ends -/

/-- The text without the characters of one kind at its front and of another at its end. -/
def strip (opens closes : Char → Bool) (cs : List Char) : List Char := (cs.dropWhile opens).rdropWhile closes

/-- No such character stands at the front or at the end. -/
structure Bare (opens closes : Char → Bool) (cs : List Char) : Prop where
  head : ∀ c ∈ cs.head?, opens c = false
  last : ∀ c ∈ cs.getLast?, closes c = false

theorem toList_trim (s : String) : (trim s).toList = strip isBlank isBlank s.toList := String.toList_ofList

theorem dropWhile_of_head (h : ∀ c ∈ cs.head?, opens c = false) : cs.dropWhile opens = cs := by
  cases cs with
  | nil => rfl
  | cons c cs => exact List.dropWhile_cons_of_neg (Bool.eq_false_iff.1 (h c rfl))

theorem rdropWhile_of_last (h : ∀ c ∈ cs.getLast?, closes c = false) : cs.rdropWhile closes = cs :=
  List.rdropWhile_eq_self_iff.2 fun hne => Bool.eq_false_iff.1 (h _ (List.getLast_mem_getLast? hne))

theorem bare_strip (opens closes : Char → Bool) (cs : List Char) : Bare opens closes (strip opens closes cs) where
  head := by
    intro c hc
    obtain ⟨rest, hrest⟩ := List.rdropWhile_prefix closes (l := cs.dropWhile opens)
    have hfront : (cs.dropWhile opens).head? = some c := by
      rw [← hrest]
      exact List.mem_head?_append_of_mem_head? hc
    have hstop := List.head?_dropWhile_not opens cs
    rw [hfront] at hstop
    exact hstop
  last := by
    intro c hc
    obtain ⟨hne, rfl⟩ := List.mem_getLast?_eq_getLast hc
    exact Bool.eq_false_iff.2 (List.rdropWhile_last_not closes _ hne)

theorem strip_eq_self : strip opens closes cs = cs ↔ Bare opens closes cs := by
  constructor
  · intro h
    rw [← h]
    exact bare_strip opens closes cs
  · intro h
    rw [strip, dropWhile_of_head h.head, rdropWhile_of_last h.last]

instance : Decidable (Bare opens closes cs) := decidable_of_iff _ strip_eq_self

theorem length_strip_le (opens closes : Char → Bool) (cs : List Char) :
    (strip opens closes cs).length ≤ cs.length :=
  (List.rdropWhile_prefix closes _).length_le.trans (List.dropWhile_suffix opens).length_le

/-- Where the end is bare, only the front is taken off. -/
theorem strip_of_last (h : ∀ c ∈ cs.getLast?, closes c = false) :
    strip opens closes cs = cs.dropWhile opens := by
  refine rdropWhile_of_last fun c hc => h c ?_
  obtain ⟨front, hfront⟩ := List.dropWhile_suffix opens (l := cs)
  rw [← hfront]
  exact List.mem_getLast?_append_of_mem_getLast? hc

/-- A bare text is all that is left of itself between one of each. -/
theorem strip_enclosed (ha : opens a = true) (hb : closes b = true) (hne : cs ≠ []) (h : Bare opens closes cs) :
    strip opens closes (a :: (cs ++ [b])) = cs := by
  have hhead : ∀ c ∈ (cs ++ [b]).head?, opens c = false := by
    rw [List.head?_append_of_ne_nil _ hne]
    exact h.head
  rw [strip, List.dropWhile_cons_of_pos ha, dropWhile_of_head hhead, List.rdropWhile_concat_pos _ _ _ hb,
    rdropWhile_of_last h.last]

theorem trim_eq_self {s : String} : trim s = s ↔ Bare isBlank isBlank s.toList := by
  rw [← String.toList_inj, toList_trim, strip_eq_self]

theorem trim_eq_empty {s : String} : trim s = "" ↔ allBlank s = true := by
  rw [← String.toList_eq_nil_iff, toList_trim, strip, List.rdropWhile_eq_nil_iff, allBlank, List.all_eq_true]
  refine ⟨?_, fun h c hc => h c ((List.dropWhile_suffix isBlank).subset hc)⟩
  intro h
  -- the first character that is left would be no blank
  cases hrest : s.toList.dropWhile isBlank with
  | nil => exact List.dropWhile_eq_nil_iff.1 hrest
  | cons c rest =>
    have hstop := List.head?_dropWhile_not isBlank s.toList
    rw [hrest] at h hstop
    exact absurd (h c List.mem_cons_self) (Bool.eq_false_iff.1 hstop)

end FrameFeed.Text
