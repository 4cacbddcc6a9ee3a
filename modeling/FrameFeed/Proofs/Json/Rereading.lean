import FrameFeed.Proofs.Json.AnyOrder
import FrameFeed.Proofs.Json.Doubles
/-!
# Values written and read again

The values that are read are those that a document can hold (`Holds`), nested no deeper than the reader goes
(`within_of_scanValue`). Written and read again, such a value comes back as it was but for its doubles, which need not
be read as they were written (`exists_denotes`), if only it is nested no deeper than that reader goes; otherwise it is
refused, as too deep and for no other reason (`scanValue_too_deep`).
-/
namespace FrameFeed.Json

/-- A value that a document can hold: whole numbers fit, doubles are finite, and the members of an object stand in the
order of their keys. -/
inductive Holds : Json → Prop
  | null : Holds .null
  | bool (b : Bool) : Holds (.bool b)
  | num {n : Number} (h : n.Holds) : Holds (.num n)
  | str (s : String) : Holds (.str s)
  | arr {vs : List Json} (items : ∀ v ∈ vs, Holds v) : Holds (.arr vs)
  | obj {ms : Members} (sorted : ms.Pairwise (·.1 < ·.1)) (values : ∀ m ∈ ms, Holds m.2) : Holds (.obj ms)

/-- A document can hold the value for a reader that goes this deep. -/
structure Within (limit : Nat) (v : Json) : Prop where
  holds : v.Holds
  depth : v.depth ≤ limit

/-! ## What is read -/

section
variable {limit n : Nat} {v : Json} {vs : List Json} {k : String} {m : String × Json} {ms : Members} {s r : Bytes}

theorem depthItems_le (h : ∀ v ∈ vs, v.depth ≤ n) : depthItems vs ≤ n := by
  induction vs with
  | nil => exact Nat.zero_le _
  | cons v vs ih => exact Nat.max_le.2 ⟨h v (.head _), ih fun w hw => h w (.tail _ hw)⟩

theorem depthMembers_le (h : ∀ m ∈ ms, m.2.depth ≤ n) : depthMembers ms ≤ n := by
  induction ms with
  | nil => exact Nat.zero_le _
  | cons m ms ih => exact Nat.max_le.2 ⟨h m (.head _), ih fun l hl => h l (.tail _ hl)⟩

theorem within_of_flat (h : v.Holds) (hflat : v.depth = 0) : Within limit v := ⟨h, by omega⟩

theorem within_arr (h : ∀ v ∈ vs, Within limit v) : Within (limit + 1) (.arr vs) :=
  ⟨.arr fun v hv => (h v hv).holds, Nat.succ_le_succ (depthItems_le fun v hv => (h v hv).depth)⟩

theorem within_obj (hsorted : ms.Pairwise (·.1 < ·.1)) (h : ∀ m ∈ ms, Within limit m.2) :
    Within (limit + 1) (.obj ms) :=
  ⟨.obj hsorted fun m hm => (h m hm).holds, Nat.succ_le_succ (depthMembers_le fun m hm => (h m hm).depth)⟩

/-- A member is put at its place. -/
theorem sorted_insert (h : ms.Pairwise (·.1 < ·.1)) : (insert k v ms).Pairwise (·.1 < ·.1) := by
  fun_induction insert k v ms with
  | case1 => exact List.pairwise_singleton _ _
  | case2 l w ms hlt =>
    refine .cons (fun m hm => ?_) h
    rcases List.mem_cons.1 hm with rfl | hm
    · exact hlt
    · exact String.lt_trans hlt (List.rel_of_pairwise_cons h hm)
  | case3 w ms => exact .cons (fun m hm => List.rel_of_pairwise_cons h hm) h.of_cons
  | case4 l w ms hlt hne ih =>
    refine .cons (fun m hm => ?_) (ih h.of_cons)
    rcases mem_of_mem_insert hm with rfl | hm
    · exact String.not_le.1 fun hle => hne (String.le_antisymm hle (String.not_lt.1 hlt))
    · exact List.rel_of_pairwise_cons h hm

/-- What each element has, all of them have. -/
theorem forall_of_scanElements {P : Json → Prop} {item : Scan Json} (hitem : ∀ s v r, item s = .ok (v, r) → P v)
    {first : Bool} {taken : List Json} (htaken : ∀ v ∈ taken, P v)
    (h : scanElements item n first taken s = .ok (vs, r)) : ∀ v ∈ vs, P v := by
  induction n generalizing first taken s with
  | zero => cases h
  | succ n ih =>
    rw [scanElements] at h
    split at h
    · cases h
    · obtain ⟨u, -, he⟩ := map_eq_ok h
      cases he
      exact fun v hv => htaken v (List.mem_reverse.1 hv)
    · split at h
      · cases h
      · rename_i v u hv
        exact ih (List.forall_mem_cons.2 ⟨hitem _ v u hv, htaken⟩) h

/-- What taking up a member keeps, taking up all of them keeps. -/
theorem invariant_of_scanMembers {σ : Type} {P : σ → Prop} {step : σ → String → Scan σ}
    (hstep : ∀ state k s state' r, P state → step state k s = .ok (state', r) → P state')
    {first : Bool} {state state' : σ} (hstate : P state)
    (h : scanMembers step n first state s = .ok (state', r)) : P state' := by
  induction n generalizing first state s with
  | zero => cases h
  | succ n ih =>
    rw [scanMembers] at h
    split at h
    · cases h
    · obtain ⟨u, -, he⟩ := map_eq_ok h
      cases he
      exact hstate
    · split at h
      · cases h
      · split at h
        · cases h
        · rename_i hnext
          exact ih (hstep _ _ _ _ _ hstate hnext) h

theorem within_obj_of_scanMembers {value : Scan Json} (hvalue : ∀ s v r, value s = .ok (v, r) → Within limit v)
    {first : Bool} (h : scanMembers (takeMember value) n first [] s = .ok (ms, r)) : Within (limit + 1) (.obj ms) := by
  have hmembers : ms.Pairwise (·.1 < ·.1) ∧ ∀ m ∈ ms, Within limit m.2 := by
    refine invariant_of_scanMembers (P := fun ms : Members => ms.Pairwise (·.1 < ·.1) ∧ ∀ m ∈ ms, Within limit m.2)
      (fun ms k s ms' r hms hstep => ?_) ⟨.nil, List.forall_mem_nil _⟩ h
    obtain ⟨u, -, hstep⟩ := bind_eq_ok hstep
    obtain ⟨⟨v, w⟩, hv, he⟩ := bind_eq_ok hstep
    cases he
    refine ⟨sorted_insert hms.1, fun m hm => ?_⟩
    rcases mem_of_mem_insert hm with rfl | hm
    · exact hvalue _ _ _ hv
    · exact hms.2 m hm
  exact within_obj hmembers.1 hmembers.2

theorem within_of_scanValueWith {nested : Option (Scan Json)}
    (hnested : ∀ value ∈ nested, ∃ l, limit = l + 1 ∧ ∀ s v r, value s = .ok (v, r) → Within l v)
    (h : scanValueWith nested s = .ok (v, r)) : Within limit v := by
  unfold scanValueWith at h
  split at h
  · cases h
  · obtain ⟨_, -, he⟩ := map_eq_ok h
    cases he
    exact within_of_flat .null rfl
  · obtain ⟨_, -, he⟩ := map_eq_ok h
    cases he
    exact within_of_flat (.bool true) rfl
  · obtain ⟨_, -, he⟩ := map_eq_ok h
    cases he
    exact within_of_flat (.bool false) rfl
  · obtain ⟨_, hnumber, he⟩ := map_eq_ok h
    cases he
    exact within_of_flat (.num (holds_of_scanNumber hnumber)) rfl
  · obtain ⟨_, -, he⟩ := map_eq_ok h
    cases he
    exact within_of_flat (.str _) rfl
  · split at h
    · cases h
    · rename_i value
      obtain ⟨l, rfl, hvalue⟩ := hnested value rfl
      obtain ⟨_, hlist, he⟩ := map_eq_ok h
      cases he
      exact within_arr (forall_of_scanElements hvalue (List.forall_mem_nil _) hlist)
  · split at h
    · cases h
    · rename_i value
      obtain ⟨l, rfl, hvalue⟩ := hnested value rfl
      obtain ⟨⟨ms, u⟩, hobject, he⟩ := map_eq_ok h
      cases he
      exact within_obj_of_scanMembers hvalue hobject
  · split at h
    · obtain ⟨_, hnumber, he⟩ := map_eq_ok h
      cases he
      exact within_of_flat (.num (holds_of_scanNumber hnumber)) rfl
    · cases h

/-- What is read is a value that a document can hold, and nested no deeper than the reader goes. -/
theorem within_of_scanValue (h : scanValue limit s = .ok (v, r)) : Within limit v := by
  induction limit generalizing s v r with
  | zero => exact @within_of_scanValueWith 0 v s r none nofun h
  | succ limit ih =>
    refine within_of_scanValueWith (fun value hvalue => ⟨limit, rfl, fun s v r hv => ?_⟩) h
    cases hvalue
    exact ih hv

theorem within_of_parse (h : parse s = .ok v) : Within depthLimit v := by
  unfold parse whole at h
  split at h
  · cases h
  · rename_i w r hscan
    split at h
    · cases h
      exact within_of_scanValue hscan
    · cases h

end

/-! ## What is read again -/

mutual

/-- The value with zero for each double. -/
def blur : Json → Json
  | .num (.double _) => .num (.double 0)
  | .arr vs => .arr (blurItems vs)
  | .obj ms => .obj (blurMembers ms)
  | v => v

def blurItems : List Json → List Json
  | [] => []
  | v :: vs => blur v :: blurItems vs

def blurMembers : Members → Members
  | [] => []
  | (k, v) :: ms => (k, blur v) :: blurMembers ms

end

section
variable {depth : Nat} {v w : Json} {vs : List Json} {ms : Members} {x : Bytes}

theorem starts_of_holds (h : v.Holds) : Starts v := by
  cases h with
  | null => exact print_cons .null
  | bool b => exact print_cons (.bool b)
  | @num n hn =>
    cases n with
    | int i => exact print_cons (.int hn.1 hn.2)
    | double b =>
      obtain ⟨c, x, hcons, hc⟩ := exists_digit_magnitude hn
      unfold Starts
      rw [print, Number.print, printDouble_eq]
      split
      · exact ⟨_, _, rfl, rfl, by decide⟩
      · exact ⟨c, x, hcons, isBlank_of_isDigit hc, ne_of_isDigit hc rfl⟩
  | str s => exact print_cons (.str s)
  | arr => exact ⟨_, _, by rw [print, List.cons_append], rfl, by decide⟩
  | obj => exact ⟨_, _, by rw [print, List.cons_append], rfl, by decide⟩

/-- A number is read again as one that differs at most as a double. -/
theorem exists_scan_number {n : Number} (h : n.Holds) :
    ∃ m : Number, blur (.num m) = blur (.num n) ∧ ∀ nested x, Ends x →
      scanValueWith nested (n.print ++ x) = .ok (.num m, x) := by
  cases n with
  | int i => exact ⟨.int i, rfl, fun nested _ hx => scanValueWith_int nested h.1 h.2 hx⟩
  | double b =>
    obtain ⟨b', -, hscan⟩ := scanValueWith_double h
    exact ⟨.double b', rfl, hscan⟩

/-- A value that holds no other is read again. -/
theorem exists_scan_flat (h : v.Holds) (hflat : v.depth = 0) :
    ∃ w, w.blur = v.blur ∧ ∀ nested x, Ends x → scanValueWith nested (print v ++ x) = .ok (w, x) := by
  cases h with
  | null => exact ⟨.null, rfl, fun nested _ hx => scanValueWith_flat .null rfl nested hx⟩
  | bool b => exact ⟨.bool b, rfl, fun nested _ hx => scanValueWith_flat (.bool b) rfl nested hx⟩
  | num hn =>
    obtain ⟨m, hblur, hscan⟩ := exists_scan_number hn
    exact ⟨.num m, hblur, hscan⟩
  | str s => exact ⟨.str s, rfl, fun nested _ hx => scanValueWith_flat (.str s) rfl nested hx⟩
  | arr items => cases hflat
  | obj sorted values => cases hflat

/-- The elements of a list, each of which is read again. -/
theorem exists_items (h : ∀ v ∈ vs, ∃ w, w.blur = v.blur ∧ Denotes depth (print v) w) (hholds : ∀ v ∈ vs, v.Holds) :
    ∃ ws, blurItems ws = blurItems vs ∧ List.Forall₂ (ReadBy (scanValue depth)) vs ws := by
  induction vs with
  | nil => exact ⟨[], rfl, .nil⟩
  | cons v vs ih =>
    obtain ⟨w, hblur, hw⟩ := h v (.head _)
    obtain ⟨ws, hblurs, hws⟩ := ih (fun v hv => h v (.tail _ hv)) fun v hv => hholds v (.tail _ hv)
    exact ⟨w :: ws, by rw [blurItems, blurItems, hblur, hblurs],
      .cons ⟨starts_of_holds (hholds v (.head _)), hw⟩ hws⟩

/-- The members of an object, the value of each of which is read again. They are taken up in the same order. -/
theorem exists_takes (h : ∀ m ∈ ms, ∃ w, w.blur = m.2.blur ∧ Denotes depth (print m.2) w) {taken : Members}
    (hsorted : (taken ++ ms).Pairwise (·.1 < ·.1)) :
    ∃ ms', blurMembers ms' = blurMembers ms ∧
      Takes (takeMember (scanValue depth)) (written ms) taken (taken ++ ms') := by
  induction ms generalizing taken with
  | nil => exact ⟨[], rfl, (List.append_nil taken).symm⟩
  | cons m ms ih =>
    obtain ⟨k, v⟩ := m
    obtain ⟨w, hblur, hw⟩ := h (k, v) (.head _)
    have hbelow := (List.pairwise_append.1 hsorted).2.2
    have hlast : insert k w taken = taken ++ [(k, w)] := insert_last (fun m hm => hbelow m hm (k, v) (.head _)) w
    have hsorted' : (taken ++ [(k, w)] ++ ms).Pairwise (·.1 < ·.1) := by
      have hkeys : (taken ++ [(k, w)] ++ ms).map (·.1) = (taken ++ (k, v) :: ms).map (·.1) := by simp
      exact sorted_of_keys _ hkeys (List.pairwise_map.2 hsorted)
    obtain ⟨ms', hblurs, htakes⟩ := ih (fun m hm => h m (.tail _ hm)) hsorted'
    refine ⟨(k, w) :: ms', by rw [blurMembers, blurMembers, hblur, hblurs], taken ++ [(k, w)], fun x hx => ?_, ?_⟩
    · simp only [takeMember, colon_cons, bind, Except.bind, hw x hx, hlast, pure, Except.pure]
    · rwa [List.append_assoc] at htakes

theorem print_obj (ms : Members) : print (.obj ms) = joinObject (written ms) := by
  rw [print, joinObject, joinMembers_written]

theorem print_arr_append (vs : List Json) (x : Bytes) : print (.arr vs) ++ x = 91 :: (printItems vs ++ 93 :: x) := by
  rw [print]
  simp

/-- What differs from an object at most in doubles is an object. -/
theorem eq_obj_of_blur (h : w.blur = blur (.obj ms)) : ∃ ms', w = .obj ms' := by
  cases w with
  | obj ms' => exact ⟨ms', rfl⟩
  | num n => cases n <;> cases h
  | null | bool | str | arr => cases h

/-- **What a document can hold is read again** as it was but for its doubles, by a reader that goes deep enough. -/
theorem exists_denotes (h : v.Holds) (hdepth : v.depth ≤ depth) :
    ∃ w, w.blur = v.blur ∧ Denotes depth (print v) w := by
  induction depth generalizing v with
  | zero =>
    obtain ⟨w, hblur, hscan⟩ := exists_scan_flat h (Nat.le_zero.1 hdepth)
    exact ⟨w, hblur, hscan none⟩
  | succ depth ih =>
    by_cases hflat : v.depth = 0
    · obtain ⟨w, hblur, hscan⟩ := exists_scan_flat h hflat
      exact ⟨w, hblur, hscan _⟩
    cases h with
    | @arr vs items =>
      rw [Json.depth] at hdepth
      obtain ⟨ws, hblur, hitems⟩ := exists_items (fun v hv => ih (items v hv)
        (Nat.le_trans (depth_le_of_mem_items hv) (Nat.le_of_succ_le_succ hdepth))) items
      refine ⟨.arr ws, by rw [blur, blur, hblur], fun x hx => ?_⟩
      have hlist := scanElements_print (fun v hv => starts_of_holds (items v hv)) hitems x
      rw [print_arr_append, scanValue, scanValueWith, skipBlank_cons rfl]
      simp only [hlist]
      rfl
    | @obj ms sorted values =>
      rw [Json.depth] at hdepth
      obtain ⟨ms', hblur, htakes⟩ := @exists_takes depth ms (fun m hm => ih (values m hm)
        (Nat.le_trans (depth_le_of_mem_members hm) (Nat.le_of_succ_le_succ hdepth))) [] sorted
      refine ⟨.obj ms', by rw [blur, blur, hblur], fun x hx => ?_⟩
      rw [print_obj]
      exact scanValue_object htakes x
    | null | bool | num | str => exact absurd rfl hflat

end

/-! ## What is refused -/

section
variable {depth n : Nat} {v : Json} {vs : List Json} {ms : Members} {e : Fault} {x rest : Bytes}

/-- A text is refused with this error, whatever ends it. -/
def Refused {α : Type} (scan : Scan α) (e : Fault) (t : Bytes) : Prop := ∀ x, Ends x → scan (t ++ x) = .error e

theorem Refused.not_read {α : Type} {scan : Scan α} {t : Bytes} {a : α} (h : Refused scan e t) :
    ¬∀ x, Ends x → scan (t ++ x) = .ok (a, x) := by
  intro hread
  cases (h [] trivial).symm.trans (hread [] trivial)

/-- A list is refused with the error of its first element that is. -/
theorem scanElements_refused {item : Scan Json} (hstarts : ∀ v ∈ vs, Starts v)
    (h : ∀ v ∈ vs, (∃ w, ∀ x, Ends x → item (print v ++ x) = .ok (w, x)) ∨ Refused item e (print v))
    (hsome : ∃ v ∈ vs, Refused item e (print v)) (hn : vs.length < n) (first : Bool) (taken : List Json)
    (rest : Bytes) : scanElements item n first taken (leadItems first vs ++ 93 :: rest) = .error e := by
  induction vs generalizing n first taken with
  | nil =>
    obtain ⟨v, hv, -⟩ := hsome
    cases hv
  | cons v vs ih =>
    cases n with
    | zero => exact absurd hn (Nat.not_lt_zero _)
    | succ n =>
      rw [scanElements, nextElement_cons first (hstarts v (.head _))]
      rcases h v (.head _) with ⟨w, hitem⟩ | hrefused
      · simp only [hitem _ (ends_tailItems vs rest)]
        refine ih (fun v hv => hstarts v (.tail _ hv)) (fun v hv => h v (.tail _ hv)) ?_
          (Nat.lt_of_succ_lt_succ hn) false (w :: taken)
        obtain ⟨u, hu, hrefused⟩ := hsome
        rcases List.mem_cons.1 hu with rfl | hu
        · exact absurd hitem hrefused.not_read
        · exact ⟨u, hu, hrefused⟩
      · simp only [hrefused _ (ends_tailItems vs rest)]

theorem scanValue_list_refused (hstarts : ∀ v ∈ vs, Starts v)
    (h : ∀ v ∈ vs, (∃ w, Denotes depth (print v) w) ∨ Refused (scanValue depth) e (print v))
    (hsome : ∃ v ∈ vs, Refused (scanValue depth) e (print v)) (rest : Bytes) :
    scanValue (depth + 1) (print (.arr vs) ++ rest) = .error e := by
  have hlist : scanElements (scanValue depth) _ true [] (printItems vs ++ 93 :: rest) = .error e :=
    scanElements_refused hstarts h hsome (length_lt_printItems hstarts rest) true [] rest
  rw [print_arr_append, scanValue, scanValueWith, skipBlank_cons rfl]
  simp only [hlist]
  rfl

/-- Taking up these members, one after the other, comes to one that is refused with this error. -/
def Refuses {σ : Type} (step : σ → String → Scan σ) (e : Fault) : Texts → σ → Prop
  | [], _ => False
  | (k, t) :: ms, s =>
    (∀ x, Ends x → step s k (58 :: (t ++ x)) = .error e) ∨
      ∃ s₁, (∀ x, Ends x → step s k (58 :: (t ++ x)) = .ok (s₁, x)) ∧ Refuses step e ms s₁

theorem scanMembers_refused {σ : Type} {step : σ → String → Scan σ} {doc : Texts} {s : σ}
    (h : Refuses step e doc s) (hn : doc.length < n) (first : Bool) (rest : Bytes) :
    scanMembers step n first s (leadMembers first doc ++ 125 :: rest) = .error e := by
  induction doc generalizing n s first with
  | nil => exact absurd h id
  | cons m doc ih =>
    obtain ⟨k, t⟩ := m
    cases n with
    | zero => exact absurd hn (Nat.not_lt_zero _)
    | succ n =>
      rw [scanMembers_member (nextMember_cons first k t doc rest)]
      rcases h with hrefused | ⟨s₁, hstep, hrefuses⟩
      · rw [hrefused _ (ends_tailMembers doc rest)]
        rfl
      · rw [hstep _ (ends_tailMembers doc rest)]
        exact ih hrefuses (Nat.lt_of_succ_lt_succ hn) false

/-- An object is refused with the error of its first member that is. -/
theorem refuses_takeMember {value : Scan Json}
    (h : ∀ m ∈ ms, (∃ w, ∀ x, Ends x → value (print m.2 ++ x) = .ok (w, x)) ∨ Refused value e (print m.2))
    (hsome : ∃ m ∈ ms, Refused value e (print m.2)) (taken : Members) :
    Refuses (takeMember value) e (written ms) taken := by
  induction ms generalizing taken with
  | nil =>
    obtain ⟨m, hm, -⟩ := hsome
    cases hm
  | cons m ms ih =>
    obtain ⟨k, v⟩ := m
    rcases h (k, v) (.head _) with ⟨w, hvalue⟩ | hrefused
    · refine .inr ⟨insert k w taken, fun x hx => ?_, ih (fun m hm => h m (.tail _ hm)) ?_ _⟩
      · simp only [takeMember, colon_cons, bind, Except.bind, hvalue x hx, pure, Except.pure]
      · obtain ⟨m, hm, hrefused⟩ := hsome
        rcases List.mem_cons.1 hm with rfl | hm
        · exact absurd hvalue hrefused.not_read
        · exact ⟨m, hm, hrefused⟩
    · refine .inl fun x hx => ?_
      simp only [takeMember, colon_cons, bind, Except.bind, hrefused x hx]

theorem scanValue_object_refused {doc : Texts} (h : Refuses (takeMember (scanValue depth)) e doc []) (rest : Bytes) :
    scanValue (depth + 1) (joinObject doc ++ rest) = .error e := by
  have hobject : scanMembers (takeMember (scanValue depth)) _ true [] (joinMembers doc ++ 125 :: rest) = .error e :=
    scanMembers_refused h (length_lt_joinMembers doc rest) true rest
  have hjoin : joinObject doc ++ rest = 123 :: (joinMembers doc ++ 125 :: rest) := by simp [joinObject]
  rw [hjoin, scanValue, scanValueWith, skipBlank_cons rfl]
  unfold takeMember at hobject
  simp only [hobject]
  rfl

theorem exists_of_lt_depthItems (h : n < depthItems vs) : ∃ v ∈ vs, n < v.depth := by
  by_contra hnone
  simp only [not_exists, not_and, Nat.not_lt] at hnone
  exact absurd (depthItems_le hnone) (Nat.not_le.2 h)

theorem exists_of_lt_depthMembers (h : n < depthMembers ms) : ∃ m ∈ ms, n < m.2.depth := by
  by_contra hnone
  simp only [not_exists, not_and, Nat.not_lt] at hnone
  exact absurd (depthMembers_le hnone) (Nat.not_le.2 h)

/-- **A value that is nested deeper than the reader goes is refused as too deep**, and not for anything else. -/
theorem scanValue_too_deep (h : v.Holds) (hdepth : depth < v.depth) : Refused (scanValue depth) .tooDeep (print v) := by
  induction depth generalizing v with
  | zero =>
    cases h with
    | @arr vs items =>
      intro x _
      rw [print_arr_append]
      rfl
    | @obj ms sorted values =>
      intro x _
      rw [Decoder.print_obj_append]
      rfl
    | null | bool | num | str => cases hdepth
  | succ depth ih =>
    have hcases : ∀ w : Json, w.Holds →
        (∃ u, Denotes depth (print w) u) ∨ Refused (scanValue depth) .tooDeep (print w) := by
      intro w hw
      rcases Nat.lt_or_ge depth w.depth with hdeep | hflat
      · exact .inr (ih hw hdeep)
      · obtain ⟨u, -, hu⟩ := exists_denotes hw hflat
        exact .inl ⟨u, hu⟩
    cases h with
    | @arr vs items =>
      intro x _
      rw [Json.depth] at hdepth
      obtain ⟨w, hmem, hdeep⟩ := exists_of_lt_depthItems (Nat.lt_of_succ_lt_succ hdepth)
      exact scanValue_list_refused (fun v hv => starts_of_holds (items v hv)) (fun v hv => hcases v (items v hv))
        ⟨w, hmem, ih (items w hmem) hdeep⟩ x
    | @obj ms sorted values =>
      intro x _
      rw [Json.depth] at hdepth
      obtain ⟨m, hmem, hdeep⟩ := exists_of_lt_depthMembers (Nat.lt_of_succ_lt_succ hdepth)
      have hrefuses := refuses_takeMember (fun m hm => hcases m.2 (values m hm))
        ⟨m, hmem, ih (values m hmem) hdeep⟩ []
      rw [print_obj]
      exact scanValue_object_refused hrefuses x
    | null | bool | num | str => cases hdepth

end

/-! ## Records that are refused -/

namespace Decoder

variable {α β : Type} {fields : List (Field α)} {depth : Nat} {a : α} {b : β} {seen : List String} {key : String}
variable {required : Bool} {d : Decoder β} {set : α → β → α} {e : Fault} {ms : Texts}

theorem refused_optional_object {ms : Members} (h : Refused (scanValue depth) e (print (.obj ms))) :
    Refused ((optional object).scan depth) e (print (.obj ms)) := by
  intro x hx
  have hvalue := h x hx
  rw [print_obj_append] at hvalue ⊢
  simp [optional, object, atValue, skipBlank_cons (show isBlank 123 = false from rfl), hvalue, Except.map]

theorem refuses_later {v : Json} (hfind : fields.find? (·.name = key) = some (field key required d set))
    (hseen : key ∉ seen) (hreads : d.Reads depth v b)
    (h : Refuses (scanMember fields depth) e ms (set a b, key :: seen)) :
    Refuses (scanMember fields depth) e ((key, print v) :: ms) (a, seen) :=
  .inr ⟨_, fun x hx => scanMember_field hfind hseen (hreads x hx), h⟩

theorem refuses_first {t : Bytes} (hfind : fields.find? (·.name = key) = some (field key required d set))
    (hseen : key ∉ seen) (h : Refused (d.scan depth) e t) :
    Refuses (scanMember fields depth) e ((key, t) :: ms) (a, seen) := by
  refine .inl fun x hx => ?_
  simp [scanMember, hfind, field, hseen, colon_cons, h x hx, bind, Except.bind, Except.map]

/-- A record is refused with the error of its first member that is. -/
theorem parse_record_refused {name : String} {blank : α} {ms : Members}
    (h : Refuses (scanMember fields (depthLimit - 1)) e (written ms) (blank, [])) :
    (record name fields blank).parse (printRecord ms) = .error e := by
  have hmembers := scanMembers_refused h (length_lt_joinMembers _ []) true []
  have hlead : leadMembers true (written ms) = joinMembers (written ms) := rfl
  have hdepth : depthLimit = (depthLimit - 1) + 1 := rfl
  rw [hlead] at hmembers
  rw [printRecord, ← joinMembers_written, parse, whole, List.cons_append, hdepth]
  simp only [record, atValue, skipBlank_cons (show isBlank 123 = false from rfl), hmembers, bind, Except.bind]
  rfl

end Decoder

end FrameFeed.Json
