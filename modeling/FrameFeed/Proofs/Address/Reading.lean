import FrameFeed.Address.Endpoint
import FrameFeed.Proofs.Text.Cuts
/-!
# Endpoints that are read back

A text is read as the path after the mark of paths, or as the host before its last colon and the number after it
(`parse_eq_ok`). So it is known which endpoints there are texts for (`exists_parse_iff`): a host always stands
between brackets. The text that an endpoint is written as has brackets only around a host with a colon, and
some hosts without one are taken for something else (`Misread`). All other endpoints are read back
(`parse_text_iff`).
-/
namespace FrameFeed

/-! ## Numbers -/

namespace Decimal

theorem encode_digitChar {n : Nat} (h : n < 10) : String.utf8EncodeChar n.digitChar = [(48 + n).toUInt8] := by
  revert n
  decide

/-- A number is written with its digits. -/
theorem ofText_toString (n : Nat) : Bytes.ofText (toString n) = digits n := by
  have hencode : Bytes.ofText (toString n) = (Nat.toDigits 10 n).flatMap String.utf8EncodeChar := by
    show (Nat.repr n).toUTF8.data.toList = _
    rw [Nat.repr_eq_ofList_toDigits, String.toUTF8_eq_toByteArray, String.toByteArray_ofList, List.utf8Encode]
    simp
  rw [hencode]
  clear hencode
  induction n using digits.induct with
  | case1 n h => rw [digits, if_pos h, Nat.toDigits_of_lt_base h, List.flatMap_singleton, encode_digitChar h]
  | case2 n h ih =>
    rw [digits, if_neg h, Nat.toDigits_eq_if (by decide), if_neg h, List.flatMap_append, ih,
      List.flatMap_singleton, encode_digitChar (Nat.mod_lt n (by decide))]

theorem unsigned?_toString {limit n : Nat} (h : n ≤ limit) : unsigned? limit (toString n) = some n := by
  have hall : (digits n).all isDigit = true := List.all_eq_true.2 fun _ => isDigit_of_mem_digits
  have hnil : (digits n).isEmpty = false := List.isEmpty_eq_false_iff.2 (digits_ne_nil n)
  unfold unsigned?
  rw [ofText_toString]
  split
  · -- the first digit would be a plus sign
    next r hplus =>
    have hdigit : isDigit 43 = true := isDigit_of_mem_digits (n := n) (hplus ▸ List.mem_cons_self)
    cases hdigit
  · simp [hall, hnil, ofDigits_digits, h]

end Decimal

theorem Text.isBlank_of_isDigit {c : Char} (h : c.isDigit = true) : isBlank c = false := by
  simp only [Char.isDigit, Bool.and_eq_true, decide_eq_true_eq] at h
  have hlow : 48 ≤ c.toNat := h.1
  have hhigh : c.toNat ≤ 57 := h.2
  simp [isBlank]
  omega

namespace Endpoint

variable {s host path : String} {number : UInt16} {e : Endpoint} {cs front : List Char}

/-! ## What texts are read as -/

theorem unbracket_eq_strip (host : List Char) : unbracket host = Text.strip (· = '[') (· = ']') host := rfl

/-- How a text without blanks around it is read. -/
inductive Reads (cs : List Char) : Endpoint → Prop where
  /-- What stands after the mark of paths is a path. -/
  | path {rest : List Char} (hcs : cs = unixMark.toList ++ rest) (hne : rest ≠ []) :
    Reads cs (unix (.ofList rest))
  /-- A host stands before the last colon, with brackets or without, and the number after it. -/
  | host {front digits : List Char} {n : Nat} (hmark : ∀ rest, cs ≠ unixMark.toList ++ rest)
    (hcs : cs = front ++ ':' :: digits) (hlast : ':' ∉ digits) (hne : unbracket front ≠ [])
    (hn : Decimal.unsigned? 65535 (.ofList digits) = some n) :
    Reads cs (tcp (.ofList (unbracket front)) n.toUInt16)

theorem parse_eq_ok : parse s = .ok e ↔ Reads (Text.trim s).toList e := by
  constructor
  · intro h
    unfold parse at h
    simp only at h
    split at h
    · cases h
    · next rest hne hmark =>
      cases h
      exact .path (Text.after?_eq_some.1 hmark) hne
    · next hmark =>
      split at h
      · cases h
      · next front digits hsplit =>
        obtain ⟨hcs, hlast⟩ := Text.splitLast?_eq_some.1 hsplit
        split at h
        · cases h
        · next hempty =>
          split at h
          · cases h
          · next n hn =>
            cases h
            exact .host (Text.after?_eq_none.1 hmark) hcs hlast (fun hnil => hempty (by rw [hnil]; rfl)) hn
  · intro h
    unfold parse
    cases h with
    | @path rest hcs hne => simp only [Text.after?_eq_some.2 hcs]
    | @host front digits n hmark hcs hlast hne hn =>
      have hempty : (unbracket front).isEmpty = false := List.isEmpty_eq_false_iff.2 hne
      simp only [Text.after?_eq_none.2 hmark, Text.splitLast?_eq_some.2 ⟨hcs, hlast⟩, hempty, hn]
      rfl

theorem parse_of_bare (h : Text.Bare Text.isBlank Text.isBlank s.toList) :
    parse s = .ok e ↔ Reads s.toList e := by
  rw [parse_eq_ok, Text.trim_eq_self.2 h]

/-- What a text is read as a host of. -/
theorem Reads.exists_front (h : Reads cs (tcp host number)) :
    (∀ path, cs ≠ unixMark.toList ++ path) ∧ host ≠ "" ∧
      ∃ front digits, cs = front ++ ':' :: digits ∧ ':' ∉ digits ∧ unbracket front = host.toList := by
  generalize he : tcp host number = e at h
  cases h with
  | path => cases he
  | @host front digits n hmark hcs hlast hne hn =>
    obtain ⟨hhost, -⟩ := tcp.inj he
    rw [hhost, String.toList_ofList]
    exact ⟨hmark, fun hnil => hne (String.ofList_eq_empty_iff.1 hnil), front, digits, hcs, hlast, rfl⟩

/-- The endpoints that there are texts for. -/
def Readable : Endpoint → Prop
  | tcp host _ => host ≠ "" ∧ Text.Bare (· = '[') (· = ']') host.toList
  | unix path => path ≠ "" ∧ ∀ c ∈ path.toList.getLast?, Text.isBlank c = false

theorem readable_of_parse (h : parse s = .ok e) : e.Readable := by
  have hbare := Text.bare_strip Text.isBlank Text.isBlank s.toList
  rw [← Text.toList_trim] at hbare
  cases parse_eq_ok.1 h with
  | @path rest hcs hne =>
    refine ⟨fun hnil => hne (String.ofList_eq_empty_iff.1 hnil), ?_⟩
    rw [String.toList_ofList, ← List.getLast?_append_of_ne_nil _ hne, ← hcs]
    exact hbare.last
  | @host front digits n hmark hcs hlast hne hn =>
    refine ⟨fun hnil => hne (String.ofList_eq_empty_iff.1 hnil), ?_⟩
    rw [String.toList_ofList, unbracket_eq_strip]
    exact Text.bare_strip _ _ front

/-! ## What endpoints are written as -/

/-- The number of an endpoint as it is written. -/
def numeral (number : UInt16) : List Char := (toString number.toNat).toList

theorem isDigit_of_mem_numeral {c : Char} (h : c ∈ numeral number) : c.isDigit = true := by
  have hdigits : numeral number = Nat.toDigits 10 number.toNat := Nat.toList_repr
  exact Nat.isDigit_of_mem_toDigits (b := 10) (by decide) (by decide) (hdigits ▸ h)

theorem colon_notMem_numeral (number : UInt16) : ':' ∉ numeral number :=
  fun h => absurd (isDigit_of_mem_numeral h) (by decide)

theorem unsigned?_numeral (number : UInt16) :
    Decimal.unsigned? 65535 (.ofList (numeral number)) = some number.toNat := by
  have hle : number.toNat ≤ 65535 := Nat.le_of_lt_succ number.toNat_lt
  rw [numeral, String.ofList_toList, Decimal.unsigned?_toString hle]

/-- A host between brackets. -/
def enclosed (host : String) : List Char := '[' :: (host.toList ++ [']'])

/-- A host as it is written, between brackets if there is a colon in it. -/
def written (host : String) : List Char := if ':' ∈ host.toList then enclosed host else host.toList

theorem toList_text_tcp (host : String) (number : UInt16) :
    (tcp host number).text.toList = written host ++ ':' :: numeral number := by
  have hplain : s!"{host}:{number}" = host ++ ":" ++ toString number := rfl
  have hbrackets : s!"[{host}]:{number}" = "[" ++ host ++ "]:" ++ toString number := rfl
  have hnumeral : (toString number).toList = numeral number := rfl
  by_cases hcolon : ':' ∈ host.toList
  · rw [text, if_pos (List.contains_iff_mem.2 hcolon), hbrackets, written, if_pos hcolon]
    simp [enclosed, hnumeral]
  · rw [text, if_neg (mt List.contains_iff_mem.1 hcolon), hplain, written, if_neg hcolon]
    simp [hnumeral]

theorem toList_text_unix (path : String) : (unix path).text.toList = unixMark.toList ++ path.toList :=
  String.toList_append

/-- No text of a host ends in a blank. -/
theorem last_of_numeral (front : List Char) (number : UInt16) :
    ∀ c ∈ (front ++ ':' :: numeral number).getLast?, Text.isBlank c = false := by
  intro c hc
  rw [List.getLast?_append_of_ne_nil _ (List.cons_ne_nil _ _)] at hc
  rcases List.mem_cons.1 (List.mem_of_getLast? hc) with rfl | hdigit
  · rfl
  · exact Text.isBlank_of_isDigit (isDigit_of_mem_numeral hdigit)

theorem bare_of_head (hne : front ≠ []) (h : ∀ c ∈ front.head?, Text.isBlank c = false) :
    Text.Bare Text.isBlank Text.isBlank (front ++ ':' :: numeral number) where
  head := by rwa [List.head?_append_of_ne_nil _ hne]
  last := last_of_numeral front number

/-- The mark of paths stands in front of a host without colons only if it is made of the host. -/
theorem marked_iff {rest : List Char} (h : ':' ∉ front) :
    (∃ path, front ++ ':' :: rest = unixMark.toList ++ path) ↔ front = "unix".toList := by
  have hmark : unixMark.toList = "unix".toList ++ [':'] := by decide
  constructor
  · rintro ⟨path, hpath⟩
    rw [hmark, List.append_assoc, List.singleton_append] at hpath
    have hfirst := Text.splitFirst?_append h rest
    rw [hpath, Text.splitFirst?_append (by decide) path] at hfirst
    exact (Prod.mk.inj (Option.some.inj hfirst)).1.symm
  · rintro rfl
    exact ⟨rest, by rw [hmark, List.append_assoc, List.singleton_append]⟩

/-! ## What is read back -/

/-- A text that ends in a numeral is read as the host that stands before it. -/
theorem reads_numeral_iff : Reads (front ++ ':' :: numeral number) (tcp host number) ↔
    (∀ path, front ++ ':' :: numeral number ≠ unixMark.toList ++ path) ∧ host ≠ "" ∧
      unbracket front = host.toList := by
  constructor
  · intro h
    obtain ⟨hmark, hne, front', digits, hcs, hlast, hhost⟩ := h.exists_front
    obtain ⟨rfl, -⟩ := Text.eq_of_last (colon_notMem_numeral number) hlast hcs
    exact ⟨hmark, hne, hhost⟩
  · rintro ⟨hmark, hne, hhost⟩
    have hread := Reads.host hmark rfl (colon_notMem_numeral number)
      (fun hnil => hne (String.toList_eq_nil_iff.1 (hhost ▸ hnil))) (unsigned?_numeral number)
    rwa [hhost, String.ofList_toList, Nat.toUInt16_eq, UInt16.ofNat_toNat] at hread

/-- A host is read back from between brackets. -/
theorem parse_enclosed (h : (tcp host number).Readable)
    (hs : s.toList = enclosed host ++ ':' :: numeral number) : parse s = .ok (tcp host number) := by
  obtain ⟨hne, hbare⟩ := h
  have hopens : ∀ c ∈ (enclosed host).head?, Text.isBlank c = false := by
    intro c hc
    cases hc
    rfl
  rw [parse_of_bare (hs ▸ bare_of_head (List.cons_ne_nil _ _) hopens), hs]
  refine reads_numeral_iff.2 ⟨?_, hne, ?_⟩
  · intro path hpath
    cases (List.cons.inj hpath).1
  · exact Text.strip_enclosed rfl rfl (mt String.toList_eq_nil_iff.1 hne) hbare

/-- A path is read back. -/
theorem parse_text_unix (h : (unix path).Readable) : parse (unix path).text = .ok (unix path) := by
  obtain ⟨hne, hlast⟩ := h
  have hnil : path.toList ≠ [] := mt String.toList_eq_nil_iff.1 hne
  have hbare : Text.Bare Text.isBlank Text.isBlank (unix path).text.toList := by
    rw [toList_text_unix]
    refine ⟨?_, ?_⟩
    · intro c hc
      cases hc
      rfl
    · rwa [List.getLast?_append_of_ne_nil _ hnil]
  have hread := Reads.path (toList_text_unix path) hnil
  rw [String.ofList_toList] at hread
  exact (parse_of_bare hbare).2 hread

/-- There are texts for the readable endpoints, and for no others. -/
theorem exists_parse_iff : (∃ s, parse s = .ok e) ↔ e.Readable := by
  constructor
  · rintro ⟨s, h⟩
    exact readable_of_parse h
  · intro h
    cases e with
    | unix path => exact ⟨_, parse_text_unix h⟩
    | tcp host number => exact ⟨.ofList _, parse_enclosed h String.toList_ofList⟩

/-- The endpoints whose text is one of something else: a host without colons is written without brackets,
although a blank at its front is taken off and `unix` with a colon after it is the mark of paths. -/
def Misread : Endpoint → Prop
  | tcp host _ => ':' ∉ host.toList ∧ (host = "unix" ∨ ∃ c ∈ host.toList.head?, Text.isBlank c = true)
  | unix _ => False

theorem toList_text_of_plain (h : ':' ∉ host.toList) (number : UInt16) :
    (tcp host number).text.toList = host.toList ++ ':' :: numeral number := by
  rw [toList_text_tcp, written, if_neg h]

theorem parse_text_of_blank {c : Char} (hcolon : ':' ∉ host.toList) (hc : c ∈ host.toList.head?)
    (hblank : Text.isBlank c = true) : parse (tcp host number).text ≠ .ok (tcp host number) := by
  intro h
  have hread := parse_eq_ok.1 h
  rw [Text.toList_trim, toList_text_of_plain hcolon number, Text.strip_of_last (last_of_numeral _ number)] at hread
  obtain ⟨-, -, front, digits, hcs, hlast, hhost⟩ := hread.exists_front
  obtain ⟨blanks, hblanks⟩ := List.dropWhile_suffix Text.isBlank (l := host.toList ++ ':' :: numeral number)
  -- the numeral is the same still, and the host is no longer than what stands before it without the blanks
  have hfront : blanks ++ front = host.toList := by
    rw [hcs, ← List.append_assoc] at hblanks
    exact (Text.eq_of_last hlast (colon_notMem_numeral number) hblanks).1
  have hlength : host.toList.length ≤ front.length := by
    rw [← hhost]
    exact Text.length_strip_le _ _ front
  have hnone : blanks = [] := by
    rw [← hfront, List.length_append] at hlength
    exact List.eq_nil_of_length_eq_zero (by omega)
  rw [hnone, List.nil_append] at hblanks
  have hkept := List.head?_dropWhile_not Text.isBlank (host.toList ++ ':' :: numeral number)
  rw [hblanks, List.mem_head?_append_of_mem_head? hc] at hkept
  exact Bool.false_ne_true (hkept.symm.trans hblank)

theorem parse_text_of_unix (number : UInt16) :
    parse (tcp "unix" number).text = .ok (unix (.ofList (numeral number))) := by
  have htext : (tcp "unix" number).text.toList = "unix".toList ++ ':' :: numeral number :=
    toList_text_of_plain (by decide) number
  have hmark : "unix".toList ++ ':' :: numeral number = unixMark.toList ++ numeral number := rfl
  have hnil : numeral number ≠ [] := mt String.toList_eq_nil_iff.1 Nat.repr_ne_empty
  have hbare : Text.Bare Text.isBlank Text.isBlank "unix".toList := by decide
  rw [parse_of_bare (htext ▸ bare_of_head (by decide) hbare.head), htext]
  exact .path hmark hnil

/-- Endpoints that there are texts for are read back from their own, unless it is one of something else. -/
theorem parse_text_iff (e : Endpoint) : parse e.text = .ok e ↔ e.Readable ∧ ¬e.Misread := by
  cases e with
  | unix path => exact ⟨fun h => ⟨readable_of_parse h, id⟩, fun h => parse_text_unix h.1⟩
  | tcp host number =>
    constructor
    · intro h
      refine ⟨readable_of_parse h, ?_⟩
      rintro ⟨hcolon, rfl | ⟨c, hc, hblank⟩⟩
      · rw [parse_text_of_unix] at h
        cases h
      · exact parse_text_of_blank hcolon hc hblank h
    · rintro ⟨hread, hclear⟩
      by_cases hcolon : ':' ∈ host.toList
      · refine parse_enclosed hread ?_
        rw [toList_text_tcp, written, if_pos hcolon]
      · obtain ⟨hne, hbare⟩ := hread
        have hhead : ∀ c ∈ host.toList.head?, Text.isBlank c = false := by
          intro c hc
          exact Bool.eq_false_iff.2 fun hblank => hclear ⟨hcolon, .inr ⟨c, hc, hblank⟩⟩
        have htext := toList_text_of_plain hcolon number
        rw [parse_of_bare (htext ▸ bare_of_head (mt String.toList_eq_nil_iff.1 hne) hhead), htext]
        refine reads_numeral_iff.2 ⟨?_, hne, Text.strip_eq_self.2 hbare⟩
        intro path hpath
        exact hclear ⟨hcolon, .inl (String.toList_inj.1 ((marked_iff hcolon).1 ⟨path, hpath⟩))⟩

/-- **An endpoint that was read is read again from its own text, unless it is misread.** Paths never are, nor
hosts with a colon. A host without one is misread if it begins with a blank, or if it is `unix`, which is read as
the path of a socket file that is named as the number. -/
theorem text_read_back (s : String) (e : Endpoint) (h : parse s = .ok e) :
    (parse e.text = .ok e ↔ ¬e.Misread) ∧
      ∀ number, e = tcp "unix" number → parse e.text = .ok (unix (.ofList (numeral number))) := by
  refine ⟨?_, ?_⟩
  · rw [parse_text_iff]
    exact and_iff_right (readable_of_parse h)
  · rintro number rfl
    exact parse_text_of_unix number

theorem text_read_back_ipv6 :
    parse " [::1]:+9000 " = .ok (tcp "::1" 9000) ∧ parse (tcp "::1" 9000).text = .ok (tcp "::1" 9000) := by
  have hread : parse " [::1]:+9000 " = .ok (tcp "::1" 9000) := by decide
  have hclear : ¬(tcp "::1" 9000).Misread := by
    rintro ⟨hcolon, -⟩
    exact hcolon (by decide)
  exact ⟨hread, (text_read_back _ _ hread).1.2 hclear⟩

/-- The brackets that a host was read from may be missed where it is written. -/
theorem misread_without_brackets :
    (parse "[unix]:80" = .ok (tcp "unix" 80) ∧ parse (tcp "unix" 80).text = .ok (unix "80")) ∧
      parse "[ host]:80" = .ok (tcp " host" 80) ∧ parse (tcp " host" 80).text = .ok (tcp "host" 80) := by
  decide

end Endpoint
end FrameFeed
