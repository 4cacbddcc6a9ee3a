import FrameFeed.Exchange.RequestType
import FrameFeed.Frame.Metadata
import FrameFeed.Proofs.Json.Skipping
import Mathlib.Data.List.Nodup
/-!
# Names in options and in documents

Color spaces, layouts, element types and types of requests have names, which are read from options (`ofName?`) and
from documents (`decoder`). Either reader has a table of its own, and so has the writer of documents (`toJson`).
What the tables of the readers say is told by two lemmas per enumeration (`ofName?_eq_ok_iff`,
`mem_spellings_iff`); from these it follows where the readers agree (`names_read_alike`): everywhere but at an older
name of a layout, which only documents may use.
-/
namespace FrameFeed

variable {α κ ε : Type}

/-! ## Tables of names -/

/-- In a list whose entries have different keys, the entry found for a key is the one that has it. -/
theorem find?_key_iff [DecidableEq κ] {key : α → κ} {l : List α} (h : (l.map key).Nodup) {k : κ} {a : α} :
    l.find? (key · = k) = some a ↔ a ∈ l ∧ key a = k := by
  constructor
  · intro hfind
    exact ⟨List.mem_of_find?_eq_some hfind, by simpa using List.find?_some hfind⟩
  · rintro ⟨ha, rfl⟩
    cases hfind : l.find? (key · = key a) with
    | none => simpa using List.find?_eq_none.1 hfind a ha
    | some b =>
      have hkey : key b = key a := by simpa using List.find?_some hfind
      rw [List.inj_on_of_nodup_map h (List.mem_of_find?_eq_some hfind) ha hkey]

/-- Where all values have different names, a text finds the one that it names. -/
theorem find?_name_iff (all : List α) (name : α → String) (hall : ∀ b, b ∈ all) (h : (all.map name).Nodup)
    {s : String} {a : α} : all.find? (name · = s) = some a ↔ s = name a := by
  rw [find?_key_iff h]
  exact ⟨fun ⟨_, hname⟩ => hname.symm, fun hname => ⟨hall a, hname.symm⟩⟩

namespace Json.Decoder

variable {spellings : List (String × α)} {s : String} {a : α}

theorem named_eq_ok_iff (h : (spellings.map (·.1)).Nodup) : named spellings s = .ok a ↔ (s, a) ∈ spellings := by
  unfold named
  constructor
  · intro hnamed
    split at hnamed
    · rename_i t b hfind
      cases hnamed
      obtain ⟨hmem, rfl⟩ := (find?_key_iff h).1 hfind
      exact hmem
    · cases hnamed
  · intro hmem
    rw [(find?_key_iff h).2 ⟨hmem, rfl⟩]

/-- What is read as a text begins with a quote, and what is behind the quote is scanned as that text. -/
theorem exists_of_scanValueWith_text {nested : Option (Scan Json)} {t rest : Bytes}
    (h : scanValueWith nested t = .ok (.str s, rest)) :
    ∃ r, skipBlank t = 34 :: r ∧ scanText r = .ok (s, rest) := by
  unfold scanValueWith at h
  split at h
  case h_6 r hquote =>
    obtain ⟨⟨u, rest'⟩, htext, he⟩ := map_eq_ok h
    cases he
    exact ⟨r, hquote, htext⟩
  -- no other first byte begins a text
  case h_1 => cases h
  case h_9 =>
    split at h
    · obtain ⟨_, -, he⟩ := map_eq_ok h
      cases he
    · cases h
  case h_7 | h_8 =>
    split at h
    · cases h
    · obtain ⟨_, -, he⟩ := map_eq_ok h
      cases he
  all_goals
    obtain ⟨_, -, he⟩ := map_eq_ok h
    cases he

/-- A document that is a text is read as what the text names. -/
theorem parse_name {t : Bytes} (h : Json.parse t = .ok (.str s)) : (name spellings).parse t = named spellings s := by
  unfold Json.parse whole at h
  split at h
  · cases h
  · rename_i v rest hscan
    split at h
    · rename_i hend
      cases h
      obtain ⟨r, hquote, htext⟩ := exists_of_scanValueWith_text hscan
      simp only [Decoder.parse, whole, name, hquote, htext]
      cases named spellings s with
      | ok a => exact if_pos hend
      | error e => rfl
    · cases h

end Json.Decoder

/-! ## What the tables say -/

namespace ColorSpace

variable {s : String} {c : ColorSpace}

theorem mem_all (c : ColorSpace) : c ∈ all := by cases c <;> decide

theorem ofName?_eq_ok_iff : ofName? s = .ok c ↔ s = c.name := by
  rw [← find?_name_iff all name mem_all (by decide), ofName?]
  cases all.find? (·.name = s) <;> simp

theorem mem_spellings_iff : (s, c) ∈ spellings ↔ s = c.name := by
  cases c <;> simp [spellings, name]

end ColorSpace

namespace Layout

variable {s : String} {l : Layout}

theorem mem_all (l : Layout) : l ∈ all := by cases l <;> decide

theorem ofName?_eq_ok_iff : ofName? s = .ok l ↔ s = l.name := by
  rw [← find?_name_iff all name mem_all (by decide), ofName?]
  cases all.find? (·.name = s) <;> simp

theorem mem_spellings_iff : (s, l) ∈ spellings ↔ s = l.name ∨ s = "semiPlanar" ∧ l = semiplanar := by
  cases l <;> simp [spellings, name, or_comm]

end Layout

namespace ElementType

variable {s : String} {t : ElementType}

/-- The older names of the floating types. -/
def legacyNames : List (String × ElementType) := [("binary32", float32), ("binary64", float64)]

theorem mem_all (t : ElementType) : t ∈ all := by cases t <;> decide

theorem ofName?_eq_ok_iff : ofName? s = .ok t ↔ s = t.name ∨ (s, t) ∈ legacyNames := by
  unfold ofName?
  by_cases h32 : s = "binary32"
  · subst h32
    cases t <;> decide
  by_cases h64 : s = "binary64"
  · subst h64
    cases t <;> decide
  have hlegacy : (s, t) ∉ legacyNames := by simp [legacyNames, h32, h64]
  rw [if_neg h32, if_neg h64, or_iff_left hlegacy, ← find?_name_iff all name mem_all (by decide)]
  cases all.find? (·.name = s) <;> simp

theorem mem_spellings_iff : (s, t) ∈ spellings ↔ s = t.name ∨ (s, t) ∈ legacyNames := by
  cases t <;> simp [spellings, name, legacyNames, or_comm]

end ElementType

namespace RequestType

variable {s : String} {t : RequestType}

theorem mem_all (t : RequestType) : t ∈ all := by cases t <;> decide

theorem ofName?_eq_ok_iff : ofName? s = .ok t ↔ s = t.name := by
  rw [← find?_name_iff all name mem_all (by decide), ofName?]
  cases all.find? (·.name = s) <;> simp

theorem mem_spellings_iff : (s, t) ∈ spellings ↔ s = t.name := by
  cases t <;> simp [spellings, name]

end RequestType

/-! ## Both readers -/

section
variable (ofName? : String → Except ε α) (decoder : Json.Decoder α) (name : α → String) (toJson : α → Json)

/-- An option with this text and a document that is this text, however it is spelled there, are read alike: both
are accepted, and then mean the same, or neither is. The document may be read as it stands or as a value. And what
is written of any value is its name, from which either reader gets the value back. -/
structure NamesAgree (s : String) : Prop where
  document : ∀ t, Json.parse t = .ok (.str s) → ∀ a, ofName? s = .ok a ↔ decoder.parse t = .ok a
  value : ∀ a, ofName? s = .ok a ↔ decoder.view (.str s) = .ok a
  written : ∀ a, toJson a = .str (name a)
  option_back : ∀ a, ofName? (name a) = .ok a
  document_back : ∀ a, decoder.parse (toJson a).print = .ok a

end

/-- The document that is written of a text is that text. -/
theorem parse_print_str (s : String) : Json.parse (Json.str s).print = .ok (.str s) :=
  Json.parse_print (.str s) (Nat.zero_le _)

section
variable {ofName? : String → Except ε α} {spellings : List (String × α)} {name : α → String} {toJson : α → Json}
  {s : String}

/-- Where all values are written by their names, it is the tables of both readers that decide on a text. -/
theorem namesAgree_iff (hnodup : (spellings.map (·.1)).Nodup) (hjson : ∀ a, toJson a = .str (name a))
    (hname : ∀ a, ofName? (name a) = .ok a) (hmem : ∀ a, (name a, a) ∈ spellings) :
    NamesAgree ofName? (.name spellings) name toJson s ↔ ∀ a, ofName? s = .ok a ↔ (s, a) ∈ spellings := by
  have hnamed : ∀ {s : String} {a : α}, Json.Decoder.named spellings s = .ok a ↔ (s, a) ∈ spellings :=
    Json.Decoder.named_eq_ok_iff hnodup
  constructor
  · intro hagree a
    rw [hagree.value a]
    exact hnamed
  · intro htables
    refine ⟨fun t ht a => ?_, fun a => ?_, hjson, hname, fun a => ?_⟩
    · rw [htables, Json.Decoder.parse_name ht, hnamed]
    · rw [htables]
      exact hnamed.symm
    · rw [hjson, Json.Decoder.parse_name (parse_print_str (name a))]
      exact hnamed.2 (hmem a)

end

theorem ColorSpace.names_agree (s : String) : NamesAgree ofName? decoder name toJson s := by
  rw [decoder, namesAgree_iff (by decide) toJson_eq ofName?_name fun _ => mem_spellings_iff.2 rfl]
  exact fun c => ofName?_eq_ok_iff.trans mem_spellings_iff.symm

/-- An older name is the one text that only documents may use. -/
theorem Layout.names_agree_iff (s : String) : NamesAgree ofName? decoder name toJson s ↔ s ≠ "semiPlanar" := by
  rw [decoder, namesAgree_iff (by decide) toJson_eq ofName?_name fun _ => mem_spellings_iff.2 (.inl rfl)]
  simp only [ofName?_eq_ok_iff, mem_spellings_iff]
  constructor
  · rintro htables rfl
    exact absurd ((htables semiplanar).2 (.inr ⟨rfl, rfl⟩)) (by decide)
  · intro hs l
    simp [hs]

theorem ElementType.names_agree (s : String) : NamesAgree ofName? decoder name toJson s := by
  rw [decoder, namesAgree_iff (by decide) toJson_eq ofName?_name fun _ => mem_spellings_iff.2 (.inl rfl)]
  exact fun t => ofName?_eq_ok_iff.trans mem_spellings_iff.symm

theorem RequestType.names_agree (s : String) : NamesAgree ofName? decoder name toJson s := by
  rw [decoder, namesAgree_iff (by decide) toJson_eq ofName?_name fun _ => mem_spellings_iff.2 rfl]
  exact fun t => ofName?_eq_ok_iff.trans mem_spellings_iff.symm

/-- **Names mean the same in options and in documents**, but for the older name of a layout, which an option may not
use; the older names of element types are read by both. What the names agree on is said of every document that is
the text, and there is one (`parse_print_str`). -/
theorem names_read_alike (s : String) :
    NamesAgree ColorSpace.ofName? ColorSpace.decoder ColorSpace.name ColorSpace.toJson s ∧
    (NamesAgree Layout.ofName? Layout.decoder Layout.name Layout.toJson s ↔ s ≠ "semiPlanar") ∧
    NamesAgree ElementType.ofName? ElementType.decoder ElementType.name ElementType.toJson s ∧
    NamesAgree RequestType.ofName? RequestType.decoder RequestType.name RequestType.toJson s :=
  ⟨ColorSpace.names_agree s, Layout.names_agree_iff s, ElementType.names_agree s, RequestType.names_agree s⟩

/-- A document gives the older name of a layout and is read; an option that gives it is refused. -/
theorem Layout.older_name_of_documents :
    decoder.parse (Json.str "semiPlanar").print = .ok semiplanar ∧
    decoder.view (.str "semiPlanar") = .ok semiplanar ∧
    ofName? "semiPlanar" = .error ⟨"layout", "semiPlanar"⟩ := by
  refine ⟨?_, by decide +kernel, by decide +kernel⟩
  rw [decoder, Json.Decoder.parse_name (parse_print_str _)]
  decide +kernel

end FrameFeed
