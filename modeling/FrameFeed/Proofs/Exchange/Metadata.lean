import FrameFeed.Proofs.Exchange.Messages
import FrameFeed.Proofs.Json.AnyOrder
/-!
# Metadata read back

Metadata are read from any document that has their fields (`Metadata.Describes`), in whatever order and beside
whatever other members, and the same by way of the value of the document (`Metadata.read_in_any_order`). Only a
member that cannot be read as a value makes a difference between the two (`Metadata.unread_beside_deep_member`).
-/
namespace FrameFeed.Metadata

open Json (Texts Denotes PassedOver joinObject written)
open Json.Decoder (field record Scans Views)

/-- The fields of the record that metadata are read as. -/
def readers : List (Json.Decoder.Field Metadata) :=
  [field "dataType" true ElementType.decoder fun m v => { m with elementType := v },
    field "width" true Json.Decoder.word32 fun m v => { m with width := v.toUInt32 },
    field "height" true Json.Decoder.word32 fun m v => { m with height := v.toUInt32 },
    field "colorSpace" true ColorSpace.decoder fun m v => { m with colorSpace := v },
    field "layout" true Layout.decoder fun m v => { m with layout := v },
    field "orientation" false Json.Decoder.text fun m v => { m with orientation := v }]

/-- What was read of the metadata once these fields were. -/
def after (m : Metadata) (seen : List String) : Metadata where
  elementType := if "dataType" ∈ seen then m.elementType else .unknown
  width := if "width" ∈ seen then m.width else 0
  height := if "height" ∈ seen then m.height else 0
  colorSpace := if "colorSpace" ∈ seen then m.colorSpace else .unknown
  layout := if "layout" ∈ seen then m.layout else .unknown
  orientation := if "orientation" ∈ seen then m.orientation else "topLeft"

theorem decoder_eq (m : Metadata) : decoder = record "struct ImageMetadata" readers (m.after []) := rfl

theorem after_eq (m : Metadata) {seen : List String} (h : ∀ f ∈ readers, f.name ∈ seen) : m.after seen = m := by
  simp only [readers, List.forall_mem_cons, field] at h
  obtain ⟨hdataType, hwidth, hheight, hcolorSpace, hlayout, horientation, -⟩ := h
  simp only [after, if_pos hdataType, if_pos hwidth, if_pos hheight, if_pos hcolorSpace, if_pos hlayout,
    if_pos horientation]

theorem scans_fields (m : Metadata) (depth : Nat) : ∀ t ∈ written m.fields, Scans readers m.after depth t := by
  intro t ht
  simp only [written, fields_eq, List.map_cons, List.map_nil, List.mem_cons, List.not_mem_nil, or_false] at ht
  rcases ht with rfl | rfl | rfl | rfl | rfl | rfl
  · exact Json.Decoder.scans_field rfl (Json.Decoder.reads_name (view_elementType _) _) fun seen => by simp [after]
  · exact Json.Decoder.scans_field rfl (Json.Decoder.reads_word32 m.width.toNat_lt _) fun seen => by simp [after]
  · exact Json.Decoder.scans_field rfl (Json.Decoder.reads_word32 m.height.toNat_lt _) fun seen => by simp [after]
  · exact Json.Decoder.scans_field rfl (Json.Decoder.reads_name (view_colorSpace _) _) fun seen => by simp [after]
  · exact Json.Decoder.scans_field rfl (Json.Decoder.reads_name (view_layout _) _) fun seen => by simp [after]
  · exact Json.Decoder.scans_field rfl (Json.Decoder.reads_text _ _) fun seen => by simp [after]

theorem views_fields (m : Metadata) : ∀ v ∈ m.fields, Views readers m.after v := by
  intro v hv
  simp only [fields_eq, List.mem_cons, List.not_mem_nil, or_false] at hv
  rcases hv with rfl | rfl | rfl | rfl | rfl | rfl
  · exact Json.Decoder.views_field rfl (view_elementType _) fun seen => by simp [after]
  · exact Json.Decoder.views_field rfl (view_word32 _) fun seen => by simp [after]
  · exact Json.Decoder.views_field rfl (view_word32 _) fun seen => by simp [after]
  · exact Json.Decoder.views_field rfl (view_colorSpace _) fun seen => by simp [after]
  · exact Json.Decoder.views_field rfl (view_layout _) fun seen => by simp [after]
  · exact Json.Decoder.views_field (b := m.orientation) rfl rfl fun seen => by simp [after]

theorem exact_fields (m : Metadata) : ∀ v ∈ m.fields, Json.Exact v.2 ∧ v.2.depth = 0 := by
  intro v hv
  simp only [fields_eq, List.mem_cons, List.not_mem_nil, or_false] at hv
  rcases hv with rfl | rfl | rfl | rfl | rfl | rfl
  · exact ⟨.str _, rfl⟩
  · exact ⟨exact_word _, rfl⟩
  · exact ⟨exact_word _, rfl⟩
  · exact ⟨.str _, rfl⟩
  · exact ⟨.str _, rfl⟩
  · exact ⟨.str _, rfl⟩

/-! ## Documents that describe metadata -/

/-- The keys that metadata have. -/
def keys : List String := ["dataType", "width", "height", "colorSpace", "layout", "orientation"]

/-- The document has the fields of the metadata, as they are written, in any order. -/
def Describes (m : Metadata) (doc : Texts) : Prop := (doc.filter fun t => t.1 ∈ keys).Perm (written m.fields)

theorem names_readers : readers.map (·.name) = keys := rfl

theorem has_readers (k : String) : Json.Decoder.has readers k ↔ k ∈ keys := by
  rw [Json.Decoder.has, List.find?_isSome, ← names_readers, List.mem_map]
  simp only [decide_eq_true_iff]

section
variable {m : Metadata} {doc : Texts}

theorem Describes.mem_written (h : m.Describes doc) {t : String × Bytes} (ht : t ∈ doc)
    (hk : Json.Decoder.has readers t.1) : t ∈ written m.fields :=
  h.mem_iff.1 (List.mem_filter.2 ⟨ht, decide_eq_true ((has_readers _).1 hk)⟩)

theorem Describes.nodup (h : m.Describes doc) :
    ((doc.filter fun t => Json.Decoder.has readers t.1).map (·.1)).Nodup := by
  have hfilter : (doc.filter fun t => Json.Decoder.has readers t.1) = doc.filter fun t => t.1 ∈ keys := by
    refine List.filter_congr fun t _ => ?_
    rw [Bool.eq_iff_iff, has_readers, decide_eq_true_iff]
  have hkeys : (written m.fields).map (·.1) = keys := rfl
  rw [hfilter, (h.map _).nodup_iff, hkeys]
  decide

theorem Describes.mem_of_key (h : m.Describes doc) {k : String} (hk : k ∈ keys) : ∃ t, (k, t) ∈ doc := by
  have hwritten : k ∈ (written m.fields).map (·.1) := hk
  obtain ⟨⟨l, t⟩, ht, rfl⟩ := List.mem_map.1 hwritten
  exact ⟨t, (List.mem_filter.1 (h.mem_iff.2 ht)).1⟩

theorem Describes.mem_of_reader (h : m.Describes doc) {f : Json.Decoder.Field Metadata} (hf : f ∈ readers) :
    ∃ t, (f.name, t) ∈ doc :=
  h.mem_of_key ((has_readers _).1 (Json.Decoder.has_of_mem hf))

/-- Metadata are read straight from a document whose other members can be passed over. -/
theorem Describes.parse (h : m.Describes doc) (hothers : ∀ t ∈ doc, t.1 ∉ keys → PassedOver t.2) :
    Metadata.parse (joinObject doc) = .ok m := by
  have hfield : ∀ t ∈ doc, Json.Decoder.has readers t.1 → Scans readers m.after (Json.depthLimit - 1) t :=
    fun t ht hk => m.scans_fields _ t (h.mem_written ht hk)
  have hother : ∀ t ∈ doc, ¬Json.Decoder.has readers t.1 → PassedOver t.2 :=
    fun t ht hk => hothers t ht fun hkey => hk ((has_readers _).2 hkey)
  obtain ⟨seen, hparse, hseen⟩ := @Json.Decoder.parse_in_any_order _ readers m.after "struct ImageMetadata" _ _ rfl
    hfield hother h.nodup fun f hf => h.mem_of_reader hf
  rw [Metadata.parse, decoder_eq m, hparse, m.after_eq hseen]

/-- Metadata are read from the value that a document is read as. -/
theorem Describes.ofJson (h : m.Describes doc)
    (hothers : ∀ t ∈ doc, t.1 ∉ keys → ∃ v, Denotes (Json.depthLimit - 1) t.2 v) :
    ∃ v, Json.parse (joinObject doc) = .ok v ∧ Metadata.ofJson v = .ok m := by
  have hfields : ∀ t ∈ written m.fields, ∃ v, (t.1, v) ∈ m.fields ∧ Denotes (Json.depthLimit - 1) t.2 v := by
    intro t ht
    obtain ⟨⟨k, v⟩, hv, rfl⟩ := List.mem_map.1 ht
    obtain ⟨hexact, hdepth⟩ := m.exact_fields _ hv
    exact ⟨v, hv, Json.denotes_print hexact (by rw [hdepth]; exact Nat.zero_le _)⟩
  have hdenote : ∀ t ∈ doc, ∃ v, Denotes (Json.depthLimit - 1) t.2 v := by
    intro t ht
    by_cases hk : t.1 ∈ keys
    · obtain ⟨v, -, hv⟩ := hfields t (h.mem_written ht ((has_readers _).2 hk))
      exact ⟨v, hv⟩
    · exact hothers t ht hk
  obtain ⟨ms, hparse, hfrom, hall⟩ := Json.parse_denoted hdenote
  have hfield : ∀ v ∈ ms, Json.Decoder.has readers v.1 → Views readers m.after v := by
    intro v hv hk
    obtain ⟨t, ht, hd⟩ := hfrom v hv
    obtain ⟨w, hw, hd'⟩ := hfields _ (h.mem_written ht hk)
    have hvalue : v.2 = w := hd.unique hd'
    exact m.views_fields v (by rw [← hvalue] at hw; exact hw)
  obtain ⟨seen, hview, hseen⟩ := @Json.Decoder.view_in_any_order _ readers m.after "struct ImageMetadata" _ _ rfl
    hfield fun f hf => by
      obtain ⟨t, ht⟩ := h.mem_of_reader hf
      exact hall _ t ht
  refine ⟨.obj ms, hparse, ?_⟩
  rw [Metadata.ofJson, decoder_eq m, hview, m.after_eq hseen]

theorem mem_keys_of_mem_written {t : String × Bytes} (ht : t ∈ written m.fields) : t.1 ∈ keys :=
  show t.1 ∈ (written m.fields).map (·.1) from List.mem_map_of_mem ht

theorem describes_written (m : Metadata) : m.Describes (written m.fields) := by
  have hfilter : (written m.fields).filter (fun t => t.1 ∈ keys) = written m.fields :=
    List.filter_eq_self.2 fun t ht => decide_eq_true (mem_keys_of_mem_written ht)
  rw [Describes, hfilter]

end

/-- **Metadata are read back, whatever the order of their fields.** Metadata are read as they were written, and so
they are by way of a value whose members stand in the order of their keys. It comes to the same if the fields of a
document stand in any order and other members stand between them, with any keys and as often as they like: read
straight from the document, if these can be passed over, as every value can however deep it is nested, and by way
of the value of the document, if they can be read inside an object, as every value can that is printed and not
nested too deep. -/
theorem read_in_any_order (m : Metadata) :
    Metadata.parse m.print = .ok m ∧
      Reply.ofMessage (Reply.json m.toJson).toMessage = .ok (.json m.toJson) ∧ Metadata.ofJson m.toJson = .ok m ∧
      (∀ doc, m.Describes doc →
        ((∀ t ∈ doc, t.1 ∉ keys → PassedOver t.2) → Metadata.parse (joinObject doc) = .ok m) ∧
        ((∀ t ∈ doc, t.1 ∉ keys → ∃ v, Denotes (Json.depthLimit - 1) t.2 v) →
          ∃ v, Json.parse (joinObject doc) = .ok v ∧ Metadata.ofJson v = .ok m)) ∧
      (∀ depth t v, Denotes depth t v → PassedOver t) ∧
      ∀ depth v, Json.Exact v → v.depth ≤ depth → Denotes depth v.print v := by
  refine ⟨?_, Reply.ofMessage_metadata m, m.ofJson_toJson, fun doc h => ⟨h.parse, h.ofJson⟩,
    fun _ _ _ h => h.passedOver, fun _ _ => Json.denotes_print⟩
  have hprint : m.print = joinObject (written m.fields) := by
    rw [print, Json.printRecord, joinObject, Json.joinMembers_written]
  rw [hprint]
  exact m.describes_written.parse fun t ht hk => absurd (mem_keys_of_mem_written ht) hk

/-- Lists inside each other. -/
def nest : Nat → Json
  | 0 => .arr []
  | n + 1 => .arr [nest n]

theorem exact_nest : ∀ n, Json.Exact (nest n)
  | 0 => .arr nofun
  | n + 1 => .arr (List.forall_mem_singleton.2 (exact_nest n))

theorem depth_nest : ∀ n, (nest n).depth = n + 1
  | 0 => rfl
  | n + 1 => by simp [nest, Json.depth, Json.depthItems, depth_nest n]

/-- Beside a member of lists that are nested as deep as a document may be, metadata are read straight from the
document, but the document is not read as a value. -/
theorem unread_beside_deep_member :
    let m : Metadata := ⟨.uint8, 4, 1, .grayscale, .planar, "topLeft"⟩
    let doc : Texts := ("deep", (nest 126).print) :: written m.fields
    m.Describes doc ∧ Denotes Json.depthLimit (nest 126).print (nest 126) ∧
      Metadata.parse (joinObject doc) = .ok m ∧ Json.parse (joinObject doc) = .error .tooDeep := by
  intro m doc
  have hdenotes : Denotes Json.depthLimit (nest 126).print (nest 126) :=
    Json.denotes_print (exact_nest 126) (by rw [depth_nest]; decide)
  have hdescribes : m.Describes doc := by
    rw [Describes, List.filter_cons_of_neg (by decide)]
    exact m.describes_written
  refine ⟨hdescribes, hdenotes, hdescribes.parse fun t ht hk => ?_, by decide +kernel⟩
  rcases List.mem_cons.1 ht with rfl | ht
  · exact hdenotes.passedOver
  · exact absurd (mem_keys_of_mem_written ht) hk

end FrameFeed.Metadata
