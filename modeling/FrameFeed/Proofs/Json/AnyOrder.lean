import FrameFeed.Proofs.Json.Skipping
/-!
# Members in any order

A document is an object of members with the texts of their values (`joinObject`). A record is read from it
whatever the order of its fields, and whatever other members stand between them: straight from the document, as
long as their values can be passed over (`parse_in_any_order`), or from the value that the document is read as, as
long as their values can be read (`parse_denoted`, `view_in_any_order`). What the record is after some of its
fields were read, `after`, depends on which they are, but not on their order.
-/
namespace FrameFeed.Json

/-! ## Values as texts -/

/-- The text is read as this value, whatever ends it. -/
def Denotes (depth : Nat) (t : Bytes) (v : Json) : Prop := ∀ x, Ends x → scanValue depth (t ++ x) = .ok (v, x)

section
variable {depth : Nat} {t : Bytes} {v w : Json}

theorem denotes_print (h : Exact v) (hdepth : v.depth ≤ depth) : Denotes depth (print v) v :=
  fun _ hx => scanValue_print h hdepth hx

theorem Denotes.unique (h : Denotes depth t v) (h' : Denotes depth t w) : v = w := by
  have hv := h [] trivial
  rw [h' [] trivial] at hv
  cases hv
  rfl

/-- The text is passed over, all of it and nothing else. -/
def PassedOver (t : Bytes) : Prop := ∀ x, Ends x → scanSkipped (t ++ x) = .ok ((), x)

/-- The text of a value is passed over, however deep the value is nested. -/
theorem Denotes.passedOver (h : Denotes depth t v) : PassedOver t := fun x hx => scanSkipped_of_scanValue (h x hx)

end

/-! ## Objects as values -/

section
variable {k : String} {v : Json} {m : String × Json} {ms acc : Members}

theorem mem_of_mem_insert (h : m ∈ insert k v ms) : m = (k, v) ∨ m ∈ ms := by
  fun_induction insert k v ms with
  | case1 => exact .inl (List.mem_singleton.1 h)
  | case2 => exact List.mem_cons.1 h
  | case3 => exact (List.mem_cons.1 h).imp_right (.tail _)
  | case4 l w ms _ _ ih =>
    rcases List.mem_cons.1 h with rfl | h
    · exact .inr (.head _)
    · exact (ih h).imp_right (.tail _)

/-- The key that is assigned is there, and so is every key that was. -/
theorem exists_mem_insert {l : String} (h : l = k ∨ ∃ w, (l, w) ∈ ms) : ∃ w, (l, w) ∈ insert k v ms := by
  fun_induction insert k v ms with
  | case1 | case2 | case3 => grind
  | case4 j u ms _ _ ih =>
    rcases h with rfl | ⟨w, hw⟩
    · obtain ⟨w, hw⟩ := ih (.inl rfl)
      exact ⟨w, .tail _ hw⟩
    · rcases List.mem_cons.1 hw with he | hw
      · exact ⟨w, he ▸ .head _⟩
      · obtain ⟨w, hw⟩ := ih (.inr ⟨w, hw⟩)
        exact ⟨w, .tail _ hw⟩

end

/-- The members of an object are taken up one by one, each as an assignment of the value that its text denotes. -/
theorem takes_denoted {depth : Nat} {doc : Texts} (h : ∀ t ∈ doc, ∃ v, Denotes depth t.2 v) (taken : Members) :
    ∃ ms, Takes (takeMember (scanValue depth)) doc taken ms ∧
      (∀ m ∈ ms, m ∈ taken ∨ ∃ t, (m.1, t) ∈ doc ∧ Denotes depth t m.2) ∧
      ∀ k, ((∃ v, (k, v) ∈ taken) ∨ ∃ t, (k, t) ∈ doc) → ∃ v, (k, v) ∈ ms := by
  induction doc generalizing taken with
  | nil =>
    refine ⟨taken, rfl, fun m hm => .inl hm, fun k hk => ?_⟩
    rcases hk with hk | ⟨t, ht⟩
    · exact hk
    · cases ht
  | cons t doc ih =>
    obtain ⟨k, t⟩ := t
    obtain ⟨v, hv⟩ := h (k, t) (.head _)
    obtain ⟨ms, htakes, hfrom, hkeys⟩ := ih (fun t ht => h t (.tail _ ht)) (insert k v taken)
    refine ⟨ms, ⟨insert k v taken, fun x hx => ?_, htakes⟩, fun m hm => ?_, fun l hl => hkeys l ?_⟩
    · simp only [takeMember, colon_cons, bind, Except.bind, hv x hx, pure, Except.pure]
    · rcases hfrom m hm with hm | ⟨u, hu, hd⟩
      · rcases mem_of_mem_insert hm with rfl | hm
        · exact .inr ⟨t, .head _, hv⟩
        · exact .inl hm
      · exact .inr ⟨u, .tail _ hu, hd⟩
    · rcases hl with hl | ⟨u, hu⟩
      · exact .inl (exists_mem_insert (.inr hl))
      · rcases List.mem_cons.1 hu with he | hu
        · cases he; exact .inl (exists_mem_insert (.inl rfl))
        · exact .inr ⟨u, hu⟩

/-- A document is read as an object that has its keys, each with a value that one of its texts denotes. -/
theorem parse_denoted {doc : Texts} (h : ∀ t ∈ doc, ∃ v, Denotes (depthLimit - 1) t.2 v) :
    ∃ ms, parse (joinObject doc) = .ok (.obj ms) ∧
      (∀ m ∈ ms, ∃ t, (m.1, t) ∈ doc ∧ Denotes (depthLimit - 1) t m.2) ∧
      ∀ k t, (k, t) ∈ doc → ∃ v, (k, v) ∈ ms := by
  obtain ⟨ms, htakes, hfrom, hkeys⟩ := takes_denoted h []
  have hscan := scanValue_object htakes []
  rw [List.append_nil] at hscan
  refine ⟨ms, whole_of_scan hscan, fun m hm => ?_, fun k t ht => hkeys k (.inr ⟨t, ht⟩)⟩
  rcases hfrom m hm with hm | hm
  · cases hm
  · exact hm

/-! ## Records -/

namespace Decoder

variable {α β : Type} {fields : List (Field α)} {after : List String → α}

/-- The key is that of a field. -/
def has (fields : List (Field α)) (k : String) : Bool := (fields.find? (·.name = k)).isSome

theorem has_of_mem {f : Field α} (h : f ∈ fields) : has fields f.name = true := by
  rw [has, List.find?_isSome]
  exact ⟨f, h, by simp⟩

theorem complete_of_seen {seen : List String} (h : ∀ f ∈ fields, f.required → f.name ∈ seen) (a : α) :
    complete fields seen a = .ok a := by
  have hnone : fields.find? (fun f => f.required && !seen.contains f.name) = none := by
    rw [List.find?_eq_none]
    intro f hf
    have := h f hf
    simpa using this
  rw [complete, hnone]

theorem scanMember_other {depth : Nat} {state : α × List String} {k : String} {t x : Bytes}
    (hk : ¬has fields k) (ht : scanSkipped (t ++ x) = .ok ((), x)) :
    scanMember fields depth state k (58 :: (t ++ x)) = .ok (state, x) := by
  have hnone : fields.find? (·.name = k) = none := by simpa [has] using hk
  simp only [scanMember, hnone, colon_cons, bind, Except.bind, ht]
  rfl

/-- The field that has this key is read from this text, whichever others were read before. -/
def Scans (fields : List (Field α)) (after : List String → α) (depth : Nat) (m : String × Bytes) : Prop :=
  ∀ seen, m.1 ∉ seen → ∀ x, Ends x →
    scanMember fields depth (after seen, seen) m.1 (58 :: (m.2 ++ x)) = .ok ((after (m.1 :: seen), m.1 :: seen), x)

/-- The field that has this key is read from this value, whichever others were read before. -/
def Views (fields : List (Field α)) (after : List String → α) (m : String × Json) : Prop :=
  ∀ seen, viewMember fields (after seen, seen) m = .ok (after (m.1 :: seen), m.1 :: seen)

section
variable {key : String} {required : Bool} {d : Decoder β} {set : α → β → α} {v : Json} {b : β}

theorem scans_field {depth : Nat} (hfind : fields.find? (·.name = key) = some (field key required d set))
    (hreads : d.Reads depth v b) (hset : ∀ seen, set (after seen) b = after (key :: seen)) :
    Scans fields after depth (key, print v) := by
  intro seen hseen x hx
  rw [scanMember_field hfind hseen (hreads x hx), hset]

theorem views_field (hfind : fields.find? (·.name = key) = some (field key required d set))
    (hview : d.view v = .ok b) (hset : ∀ seen, set (after seen) b = after (key :: seen)) :
    Views fields after (key, v) := by
  intro seen
  rw [viewMember_field hfind hview, hset]

end

/-- The key is among these, or it is that of a field among these members. -/
def Known {γ : Type} (fields : List (Field α)) (seen : List String) (ms : List (String × γ)) (k : String) : Prop :=
  k ∈ seen ∨ has fields k ∧ ∃ t, (k, t) ∈ ms

section
variable {γ : Type} {seen : List String} {ms : List (String × γ)} {k l : String} {t : γ}

theorem Known.seen_of_nil (h : Known fields seen ([] : List (String × γ)) l) : l ∈ seen := by
  rcases h with h | ⟨-, t, ht⟩
  · exact h
  · cases ht

theorem Known.tail (h : Known fields seen ((k, t) :: ms) l) : Known fields (k :: seen) ms l := by
  rcases h with h | ⟨hl, u, hu⟩
  · exact .inl (.tail _ h)
  · rcases List.mem_cons.1 hu with he | hu
    · cases he; exact .inl (.head _)
    · exact .inr ⟨hl, u, hu⟩

theorem Known.tail_of_other (h : Known fields seen ((k, t) :: ms) l) (hk : ¬has fields k) :
    Known fields seen ms l := by
  rcases h with h | ⟨hl, u, hu⟩
  · exact .inl h
  · rcases List.mem_cons.1 hu with he | hu
    · cases he; exact absurd hl hk
    · exact .inr ⟨hl, u, hu⟩

end

theorem takes_in_any_order {depth : Nat} {doc : Texts} {seen : List String}
    (hfield : ∀ m ∈ doc, has fields m.1 → Scans fields after depth m)
    (hother : ∀ m ∈ doc, ¬has fields m.1 → PassedOver m.2)
    (hnodup : ((doc.filter fun m => has fields m.1).map (·.1)).Nodup)
    (hseen : ∀ m ∈ doc, has fields m.1 → m.1 ∉ seen) :
    ∃ seen', Takes (scanMember fields depth) doc (after seen, seen) (after seen', seen') ∧
      ∀ k, Known fields seen doc k → k ∈ seen' := by
  induction doc generalizing seen with
  | nil => exact ⟨seen, rfl, fun k hk => hk.seen_of_nil⟩
  | cons m doc ih =>
    obtain ⟨k, t⟩ := m
    have hfields := fun m (hm : m ∈ doc) => hfield m (.tail _ hm)
    have hothers := fun m (hm : m ∈ doc) => hother m (.tail _ hm)
    by_cases hk : has fields k
    · rw [List.filter_cons_of_pos (by exact hk), List.map_cons, List.nodup_cons] at hnodup
      obtain ⟨hnew, hnodup⟩ := hnodup
      have hfresh : ∀ m ∈ doc, has fields m.1 → m.1 ∉ k :: seen := by
        intro m hm hhas hmem
        rcases List.mem_cons.1 hmem with he | hmem
        · exact hnew (List.mem_map.2 ⟨m, List.mem_filter.2 ⟨hm, hhas⟩, he⟩)
        · exact hseen m (.tail _ hm) hhas hmem
      obtain ⟨seen', htakes, hkeys⟩ := ih hfields hothers hnodup hfresh
      exact ⟨seen', ⟨_, hfield _ (.head _) hk seen (hseen _ (.head _) hk), htakes⟩,
        fun l hl => hkeys l (hl.tail)⟩
    · rw [List.filter_cons_of_neg (by exact hk)] at hnodup
      obtain ⟨seen', htakes, hkeys⟩ := ih hfields hothers hnodup fun m hm => hseen m (.tail _ hm)
      exact ⟨seen', ⟨_, fun x hx => scanMember_other hk (hother _ (.head _) hk x hx), htakes⟩,
        fun l hl => hkeys l (hl.tail_of_other hk)⟩

/-- A record whose fields are all there is read from a document, whatever else is in it. -/
theorem parse_in_any_order {name : String} {blank : α} {doc : Texts} (hblank : after [] = blank)
    (hfield : ∀ m ∈ doc, has fields m.1 → Scans fields after (depthLimit - 1) m)
    (hother : ∀ m ∈ doc, ¬has fields m.1 → PassedOver m.2)
    (hnodup : ((doc.filter fun m => has fields m.1).map (·.1)).Nodup)
    (hall : ∀ f ∈ fields, ∃ t, (f.name, t) ∈ doc) :
    ∃ seen, (record name fields blank).parse (joinObject doc) = .ok (after seen) ∧
      ∀ f ∈ fields, f.name ∈ seen := by
  obtain ⟨seen, htakes, hkeys⟩ := @takes_in_any_order _ _ _ _ _ [] hfield hother hnodup nofun
  have hseen : ∀ f ∈ fields, f.name ∈ seen := fun f hf => hkeys _ (.inr ⟨has_of_mem hf, hall f hf⟩)
  rw [hblank] at htakes
  exact ⟨seen, parse_object seen htakes (complete_of_seen (fun f hf _ => hseen f hf) _), hseen⟩

theorem viewMember_other {state : α × List String} {m : String × Json} (hk : ¬has fields m.1) :
    viewMember fields state m = .ok state := by
  have hnone : fields.find? (·.name = m.1) = none := by simpa [has] using hk
  simp only [viewMember, hnone]

theorem foldlM_in_any_order {ms : Members} {seen : List String}
    (hfield : ∀ m ∈ ms, has fields m.1 → Views fields after m) :
    ∃ seen', ms.foldlM (viewMember fields) (after seen, seen) = .ok (after seen', seen') ∧
      ∀ k, Known fields seen ms k → k ∈ seen' := by
  induction ms generalizing seen with
  | nil => exact ⟨seen, rfl, fun k hk => hk.seen_of_nil⟩
  | cons m ms ih =>
    obtain ⟨k, v⟩ := m
    have hfields := fun m (hm : m ∈ ms) => hfield m (.tail _ hm)
    rw [List.foldlM_cons]
    by_cases hk : has fields k
    · obtain ⟨seen', hview, hkeys⟩ := @ih (k :: seen) hfields
      rw [hfield _ (.head _) hk seen]
      exact ⟨seen', hview, fun l hl => hkeys l (hl.tail)⟩
    · obtain ⟨seen', hview, hkeys⟩ := @ih seen hfields
      rw [viewMember_other hk]
      exact ⟨seen', hview, fun l hl => hkeys l (hl.tail_of_other hk)⟩

/-- A record whose fields are all there is read from a value, whatever else is in it. -/
theorem view_in_any_order {name : String} {blank : α} {ms : Members} (hblank : after [] = blank)
    (hfield : ∀ m ∈ ms, has fields m.1 → Views fields after m) (hall : ∀ f ∈ fields, ∃ v, (f.name, v) ∈ ms) :
    ∃ seen, (record name fields blank).view (.obj ms) = .ok (after seen) ∧ ∀ f ∈ fields, f.name ∈ seen := by
  obtain ⟨seen, hview, hkeys⟩ := @foldlM_in_any_order _ _ _ _ [] hfield
  have hseen : ∀ f ∈ fields, f.name ∈ seen := fun f hf => hkeys _ (.inr ⟨has_of_mem hf, hall f hf⟩)
  rw [hblank] at hview
  exact ⟨seen, view_record seen hview (complete_of_seen (fun f hf _ => hseen f hf) _), hseen⟩

end Decoder
end FrameFeed.Json
