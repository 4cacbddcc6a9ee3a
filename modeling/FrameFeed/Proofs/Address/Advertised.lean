import FrameFeed.Address.Settings
import FrameFeed.Exchange.Client
import FrameFeed.Proofs.Address.Reading
/-!
# Connections that are advertised

The camera behind a client's settings carries the text of the endpoint that the client connects to. The address in
the settings is taken as it stands, whereas brackets around a host are taken off, and a mark of paths is looked
for, where a text is read. So the text leads to the endpoint exactly if the address is `Unmistakable`
(`parse_join_iff`). Settings made for an endpoint keep it, unless its host begins with the mark of paths
(`endpoint_ofEndpoint_iff`).
-/
namespace FrameFeed

/-- A host that begins with the mark of paths. -/
def Endpoint.Marked : Endpoint → Prop
  | tcp host _ => unixMark.toList <+: host.toList
  | unix _ => False

namespace Settings

open Endpoint (unixMark)

variable {address : String} {number : UInt16} {path : List Char}

theorem join_of_mark (h : address.toList = unixMark.toList ++ path) (number : UInt16) :
    join address number = .unix (.ofList path) := by
  rw [join, Text.after?_eq_some.2 h]

theorem join_of_host (h : ¬unixMark.toList <+: address.toList) (number : UInt16) :
    join address number = .tcp address number := by
  have hmark : Text.after? unixMark.toList address.toList = none :=
    Text.after?_eq_none.2 fun path hpath => h ⟨path, hpath.symm⟩
  rw [join, hmark]

/-- An address that means the same where it is read again: neither the mark of paths alone nor the host it is
made of, and if it is a host, then one without brackets around it. -/
def Unmistakable (address : String) : Prop :=
  address ≠ "unix" ∧ address ≠ unixMark ∧
    (unixMark.toList <+: address.toList ∨ Text.Bare (· = '[') (· = ']') address.toList)

theorem unmistakable_of_mark (h : address.toList = unixMark.toList ++ path) : Unmistakable address ↔ path ≠ [] := by
  have hunix : address ≠ "unix" := by
    rintro rfl
    have hlong := congrArg List.length h
    have hmark : unixMark.toList.length = 5 := by decide
    have hshort : "unix".toList.length = 4 := by decide
    rw [List.length_append] at hlong
    omega
  have halone : address ≠ unixMark ↔ path ≠ [] := by
    rw [ne_eq, ne_eq, ← String.toList_inj, h]
    simp
  rw [Unmistakable, halone]
  exact ⟨fun h => h.2.1, fun hpath => ⟨hunix, hpath, .inl ⟨path, h.symm⟩⟩⟩

theorem unmistakable_of_host (h : ¬unixMark.toList <+: address.toList) :
    Unmistakable address ↔ address ≠ "unix" ∧ Text.Bare (· = '[') (· = ']') address.toList := by
  have halone : address ≠ unixMark := by
    rintro rfl
    exact h (List.prefix_refl _)
  rw [Unmistakable, or_iff_right h]
  exact ⟨fun h => ⟨h.1, h.2.2⟩, fun h => ⟨h.1, halone, h.2⟩⟩

/-- An address without blanks around it leads to where it is taken to lead exactly if it is unmistakable. -/
theorem parse_join_iff (hne : address ≠ "") (hbare : Text.Bare Text.isBlank Text.isBlank address.toList) :
    Endpoint.parse (join address number).text = .ok (join address number) ↔ Unmistakable address := by
  rw [Endpoint.parse_text_iff]
  by_cases hmark : unixMark.toList <+: address.toList
  · obtain ⟨path, hpath⟩ := hmark
    rw [join_of_mark hpath.symm, unmistakable_of_mark hpath.symm]
    constructor
    · rintro ⟨⟨hne, -⟩, -⟩
      exact mt String.ofList_eq_empty_iff.2 hne
    · intro hne
      refine ⟨⟨mt String.ofList_eq_empty_iff.1 hne, ?_⟩, id⟩
      rw [String.toList_ofList, ← List.getLast?_append_of_ne_nil _ hne, hpath]
      exact hbare.last
  · rw [join_of_host hmark, unmistakable_of_host hmark]
    constructor
    · rintro ⟨⟨-, hbrackets⟩, hclear⟩
      refine ⟨?_, hbrackets⟩
      rintro rfl
      exact hclear ⟨by decide, .inl rfl⟩
    · rintro ⟨hunix, hbrackets⟩
      refine ⟨⟨hne, hbrackets⟩, ?_⟩
      rintro ⟨-, heq | ⟨c, hc, hblank⟩⟩
      · exact hunix heq
      · exact absurd hblank (Bool.eq_false_iff.1 (hbare.head c hc))

end Settings

namespace ClientSettings

open Settings

variable {vars : Variables} {s : ClientSettings}

/-- The address that variables give. -/
def addressOf (vars : Variables) : String :=
  match vars addressKey with
  | some a => if Text.allBlank a then ({} : ClientSettings).address else Text.trim a
  | none => ({} : ClientSettings).address

theorem address_of_ofVariables (h : ofVariables vars = .ok s) : s.address = addressOf vars := by
  unfold ofVariables at h
  simp only [bind, Except.bind] at h
  -- the address is settled before the three numbers are read
  split at h
  · cases h
  · split at h
    · cases h
    · split at h
      · cases h
      · cases h
        rfl

/-- No blanks stand around an address from variables, and it is not empty. -/
theorem bare_addressOf (vars : Variables) :
    addressOf vars ≠ "" ∧ Text.Bare Text.isBlank Text.isBlank (addressOf vars).toList := by
  have hdefault : ({} : ClientSettings).address ≠ "" ∧
      Text.Bare Text.isBlank Text.isBlank ({} : ClientSettings).address.toList := by decide
  unfold addressOf
  split
  · next a _ =>
    by_cases hblank : Text.allBlank a = true
    · rw [if_pos hblank]
      exact hdefault
    · rw [if_neg hblank, Text.toList_trim]
      exact ⟨mt Text.trim_eq_empty.1 hblank, Text.bare_strip _ _ _⟩
  · exact hdefault

theorem endpoint_ofEndpoint_iff (e : Endpoint) : (ofEndpoint e).endpoint = e ↔ ¬e.Marked := by
  cases e with
  | unix path =>
    have hjoin : (ofEndpoint (.unix path)).endpoint = .unix path := by
      rw [endpoint, ofEndpoint, split, join_of_mark String.toList_append, String.ofList_toList]
    exact ⟨fun _ => id, fun _ => hjoin⟩
  | tcp host number =>
    show join host number = .tcp host number ↔ ¬Endpoint.unixMark.toList <+: host.toList
    constructor
    · rintro hjoin ⟨path, hpath⟩
      rw [join_of_mark hpath.symm] at hjoin
      cases hjoin
    · exact fun h => join_of_host h number

/-- **What is advertised is where a client connects, for unmistakable addresses.** The connection of the camera
behind settings from variables is read as the endpoint of these settings, which every client that is started with
them connects to, exactly if their address is unmistakable. Settings made for an endpoint that was read have that
endpoint exactly if it is no host that begins with the mark of paths. -/
theorem advertised_where_connected (vars : Variables) (text : String) :
    (∀ s, ofVariables vars = .ok s →
      (Endpoint.parse s.camera.connection = .ok s.endpoint ↔ Unmistakable s.address) ∧
        ∀ (σ : Type) (channel : σ) (c : Client σ), Client.start s channel = .ok c → c.endpoint = s.endpoint) ∧
    ∀ e, Endpoint.parse text = .ok e → ((ofEndpoint e).endpoint = e ↔ ¬e.Marked) := by
  refine ⟨fun s hs => ⟨?_, ?_⟩, fun e _ => endpoint_ofEndpoint_iff e⟩
  · obtain ⟨hne, hbare⟩ := bare_addressOf vars
    rw [← address_of_ofVariables hs] at hne hbare
    exact parse_join_iff hne hbare
  · intro σ channel c hc
    unfold Client.start at hc
    split at hc
    · cases hc
      rfl
    · cases hc

theorem advertised_where_connected_ipv6 :
    let vars : Variables := fun key =>
      if key = addressKey then some " fe80::1 " else if key = portKey then some "9000" else none
    let s : ClientSettings := { address := "fe80::1", portNumber := 9000 }
    ofVariables vars = .ok s ∧ Endpoint.parse s.camera.connection = .ok s.endpoint ∧
      Endpoint.parse "[fe80::1]:9000" = .ok s.endpoint ∧ (ofEndpoint s.endpoint).endpoint = s.endpoint := by
  intro vars s
  have hs : ofVariables vars = .ok s := by decide
  have hclear : Unmistakable s.address := ⟨by decide, by decide, .inr (by decide)⟩
  have hread : Endpoint.parse "[fe80::1]:9000" = .ok s.endpoint := by decide
  have hendpoint : s.endpoint = .tcp "fe80::1" 9000 := by decide
  have hhost : ¬s.endpoint.Marked := by
    rw [hendpoint, Endpoint.Marked]
    decide
  obtain ⟨hadvertised, hkept⟩ := advertised_where_connected vars "[fe80::1]:9000"
  exact ⟨hs, (hadvertised s hs).1.2 hclear, hread, (hkept _ hread).2 hhost⟩

/-- Brackets in an address are lost where its text is read, and a host that begins with the mark of paths turns
into a path. -/
theorem advertised_elsewhere :
    let vars : Variables := fun key => if key = addressKey then some "[::1]" else none
    let s : ClientSettings := { address := "[::1]" }
    (ofVariables vars = .ok s ∧ s.endpoint = .tcp "[::1]" 51234 ∧
      Endpoint.parse s.camera.connection = .ok (.tcp "::1" 51234)) ∧
    Endpoint.parse "[unix:fw]:80" = .ok (.tcp "unix:fw" 80) ∧
      (ofEndpoint (.tcp "unix:fw" 80)).endpoint = .unix "fw" := by
  decide

end ClientSettings
end FrameFeed
