import Mathlib.Data.List.ReduceOption
import Mathlib.Logic.Function.Basic
import FrameFeed.Proofs.Address.Binding
/-!
# Who removes a socket file

Listeners share a directory with one another and with others, who put things at places, remove them, give them
further names, and change where paths lead. Any call of a listener to the system may fail. Which bind made what stands
at a place is written down beside the directory (`makers`), and no step depends on it. A listener knows its file by its
number alone; as long as the file system gives no number twice at a time, the number of an open listener included,
what has the number is the file that the listener made (`Owned`). So no listener that goes takes along the file of
another one (`socket_files_owned`).
-/
namespace FrameFeed

/-- A directory that listeners share with others. -/
structure SharedDirectory where
  directory : Directory
  /-- The listener of each bind, unless the bind was refused or the listener is gone. -/
  listeners : List (Option SocketFile) := []
  /-- The bind that made what stands at a place. -/
  makers : Place → Option Nat := fun _ => none

namespace SharedDirectory

open SocketFile (pathLimit)

/-! ## What happens to the directory -/

inductive Event where
  /-- A listener binds; the file system has this number for a new file. -/
  | bind (path : String) (mode id : Nat) (faults : Faults := {})
  /-- The listener of a bind is let go. -/
  | drop (k : Nat) (faults : Faults := {})
  /-- The listener of a bind vanishes and leaves its file behind. -/
  | crash (k : Nat)
  /-- Someone else puts something new at a place, or removes what is there. -/
  | place (p : Place) (f : Option File)
  /-- Someone else gives what stands at a place a second one. -/
  | link (p q : Place)
  /-- Paths lead elsewhere from now on, since someone else changed folders or links. -/
  | lead (leads : String → Route)

/-- A directory before any bind. -/
def start (d : Directory) : SharedDirectory := { directory := d }

def standing (p : Place) (s : SharedDirectory) : Option File := s.directory.standing p

/-- The listener of a bind, while there is one. -/
def listener? (k : Nat) (s : SharedDirectory) : Option SocketFile := s.listeners[k]?.join

/-- The directory whose next file gets this number. -/
def numbering (id : Nat) (s : SharedDirectory) : Directory := { s.directory with nextId := id }

/-- Something stands at a place from now on, or nothing, and a bind made it, or none. -/
def put (p : Place) (f : Option File) (maker : Option Nat) (s : SharedDirectory) : SharedDirectory :=
  { s with directory := s.directory.put p f, makers := Function.update s.makers p maker }

/-- A bind leaves a listener, or none. -/
def bound (listener : Option SocketFile) (n : Nat) (s : SharedDirectory) : SharedDirectory :=
  { s with directory := s.numbering n, listeners := s.listeners ++ [listener] }

/-- A bind leaves a listener, with a new file at a place. -/
def listen (f : SocketFile) (p : Place) (mode : Nat) (s : SharedDirectory) : SharedDirectory :=
  (s.bound (some f) (f.id + 1)).put p (some (.socket f.id mode)) (some s.listeners.length)

/-- A bind that used up the number for a new file made what is left at the place, if anything is. -/
def bind (path : String) (mode id : Nat) (faults : Faults) (s : SharedDirectory) : SharedDirectory :=
  let (listener, directory) := (s.numbering id).bind path mode faults
  let maker (q : Place) : Option Nat := if directory.nextId = id then s.makers q else some s.listeners.length
  { directory
    listeners := s.listeners ++ [listener.toOption]
    makers := fun q =>
      if s.directory.route path = .to q then (directory.standing q).bind fun _ => maker q else s.makers q }

def crash (k : Nat) (s : SharedDirectory) : SharedDirectory := { s with listeners := s.listeners.set k none }

def drop (k : Nat) (faults : Faults) (s : SharedDirectory) : SharedDirectory :=
  match s.listener? k with
  | some f =>
    let directory := s.directory.release f faults
    { s.crash k with
      directory
      makers := fun q => (directory.standing q).bind fun _ => s.makers q }
  | none => s

def step (s : SharedDirectory) : Event → SharedDirectory
  | .bind path mode id faults => s.bind path mode id faults
  | .drop k faults => s.drop k faults
  | .crash k => s.crash k
  | .place p f => s.put p f none
  | .link p q => s.put q (s.standing p) (s.makers p)
  | .lead leads => { s with directory := { s.directory with leads } }

def run (s : SharedDirectory) (events : List Event) : SharedDirectory := events.foldl step s

/-! ## Numbers of files -/

/-- No open listener has the number, and no file but the one a new file at the place replaces. -/
def Unused (id : Nat) (p : Place) (s : SharedDirectory) : Prop :=
  (∀ f ∈ s.listeners.reduceOption, f.id ≠ id) ∧ ∀ e ∈ s.directory.files, e.2.number? = some id → e.1 = p

instance (id : Nat) (p : Place) (s : SharedDirectory) : Decidable (s.Unused id p) :=
  inferInstanceAs (Decidable (_ ∧ _))

/-- The number of a new socket, and its place. -/
def newNumber? (s : SharedDirectory) : Event → Option (Nat × Place)
  | .bind path _ id _ =>
    match s.directory.route path with
    | .to p => some (id, p)
    | _ => none
  | .place p f => (f.bind File.number?).map (·, p)
  | _ => none

/-- The file system can let this happen. -/
def Allows (s : SharedDirectory) (e : Event) : Prop := ∀ new ∈ s.newNumber? e, s.Unused new.1 new.2

instance (s : SharedDirectory) (e : Event) : Decidable (s.Allows e) :=
  inferInstanceAs (Decidable (∀ new ∈ s.newNumber? e, s.Unused new.1 new.2))

def AllowsAll : SharedDirectory → List Event → Prop
  | _, [] => True
  | s, e :: events => s.Allows e ∧ (s.step e).AllowsAll events

instance decidableAllowsAll : (s : SharedDirectory) → (events : List Event) → Decidable (s.AllowsAll events)
  | _, [] => isTrue trivial
  | s, e :: events =>
    have := decidableAllowsAll (s.step e) events
    inferInstanceAs (Decidable (s.Allows e ∧ (s.step e).AllowsAll events))

variable {s : SharedDirectory} {p q : Place} {k : Nat} {f : SocketFile}

theorem Unused.ne {id : Nat} (h : s.Unused id p) (hlive : s.listener? k = some f) : f.id ≠ id := by
  refine h.1 f (List.reduceOption_mem_iff.2 (List.mem_of_getElem? (i := k) ?_))
  exact Option.join_eq_some_iff.1 hlive

theorem Unused.eq {id mode : Nat} (h : s.Unused id p) (hstands : s.standing q = some (.socket id mode)) : q = p := by
  obtain ⟨e, he, hsocket⟩ := Option.map_eq_some_iff.1 hstands
  have hq : e.1 = q := by simpa using List.find?_some he
  exact hq ▸ h.2 e (List.mem_of_find?_eq_some he) (by rw [hsocket]; rfl)

/-! ## What one step does -/

theorem standing_put (new : Option File) (maker : Option Nat) : (s.put p new maker).standing p = new :=
  Directory.standing_put p new s.directory

theorem standing_put_of_ne (h : q ≠ p) (new : Option File) (maker : Option Nat) :
    (s.put p new maker).standing q = s.standing q := Directory.standing_put_ne h new s.directory

theorem makers_put (new : Option File) (maker : Option Nat) : (s.put p new maker).makers p = maker := by
  simp [put]

theorem makers_put_of_ne (h : q ≠ p) (new : Option File) (maker : Option Nat) :
    (s.put p new maker).makers q = s.makers q := by
  simp [put, h]

theorem lt_of_listener? (h : s.listener? k = some f) : k < s.listeners.length :=
  (List.getElem?_eq_some_iff.1 (Option.join_eq_some_iff.1 h)).1

theorem listener?_concat {t : SharedDirectory} {new : Option SocketFile} (h : t.listeners = s.listeners ++ [new]) :
    t.listener? k = some f ↔ s.listener? k = some f ∨ k = s.listeners.length ∧ new = some f := by
  unfold listener?
  rw [h]
  rcases Nat.lt_trichotomy k s.listeners.length with hold | hnew | hnone
  · rw [List.getElem?_append_left hold]
    simp [Nat.ne_of_lt hold]
  · rw [hnew, List.getElem?_concat_length]
    simp
  · have hlong : (s.listeners ++ [new]).length ≤ k := by simpa using Nat.succ_le_of_lt hnone
    rw [List.getElem?_eq_none hlong, List.getElem?_eq_none (Nat.le_of_lt hnone)]
    simp [Nat.ne_of_gt hnone]

theorem listener?_crash {j : Nat} : (s.crash k).listener? j = some f ↔ j ≠ k ∧ s.listener? j = some f := by
  unfold listener? crash
  by_cases hj : j = k
  · rw [hj, List.getElem?_set_self']
    cases s.listeners[k]? <;> simp
  · rw [List.getElem?_set_ne (Ne.symm hj)]
    simp [hj]

theorem told_told {path : String} {id : Nat} {fault : Option IoError} :
    ∀ own ∈ (SocketFile.told path id fault).identity, own = id := by
  cases fault with
  | some => nofun
  | none => rintro _ ⟨⟩; rfl

theorem standing_listen (mode : Nat) : (s.listen f p mode).standing p = some (.socket f.id mode) :=
  standing_put _ _

theorem standing_listen_of_ne (h : q ≠ p) (mode : Nat) : (s.listen f p mode).standing q = s.standing q :=
  standing_put_of_ne h _ _

theorem makers_listen (mode : Nat) : (s.listen f p mode).makers p = some s.listeners.length :=
  makers_put _ _

/-- A bind changes the maker of what stands where its path leads. -/
theorem update_makers {path : String} (hroute : s.directory.route path = .to p) (maker : Place → Option Nat) :
    (fun q => if s.directory.route path = .to q then maker q else s.makers q) =
      Function.update s.makers p (maker p) := by
  funext q
  by_cases hq : q = p
  · rw [hq, hroute, if_pos rfl, Function.update_self]
  · rw [hroute, if_neg (by simpa using Ne.symm hq), Function.update_of_ne hq]

theorem drop_of_gone (h : s.listener? k = none) (faults : Faults) : s.drop k faults = s := by
  rw [drop, h]

theorem listener?_drop (k : Nat) (faults : Faults) (s : SharedDirectory) :
    (s.drop k faults).listener? k = none := by
  cases hlive : s.listener? k with
  | none => rw [drop_of_gone hlive, hlive]
  | some f =>
    have hset : (s.drop k faults).listeners = s.listeners.set k none := by simp only [drop, hlive, crash]
    rw [listener?, hset, List.getElem?_set_self (lt_of_listener? hlive)]
    rfl

/-! ## Files and those who made them -/

/-- What has the number of a listener's file is the file that the listener made. -/
structure Owned (s : SharedDirectory) : Prop where
  told : ∀ {k f}, s.listener? k = some f → ∀ id ∈ f.identity, id = f.id
  file : ∀ {k f}, s.listener? k = some f → ∀ p,
    s.makers p = some k ↔ ∃ mode, s.standing p = some (.socket f.id mode)
  made : ∀ {p k}, s.makers p = some k → k < s.listeners.length
  stands : ∀ {p}, s.standing p = none → s.makers p = none

namespace Owned

theorem bind_makers (h : Owned s) (p : Place) : ((s.standing p).bind fun _ => s.makers p) = s.makers p := by
  cases hstands : s.standing p with
  | none => exact (h.stands hstands).symm
  | some => rfl

/-- A bind leaves everything, or spoils its place, or leaves a listener. -/
theorem bind_cases (h : Owned s) (path : String) (mode id : Nat) (faults : Faults) :
    (s.bind path mode id faults = s.bound none id ∧
      ∀ p, s.directory.HasRoom path faults p → faults.making? ≠ none) ∨
    (∃ p new maker n, s.directory.HasRoom path faults p ∧ faults.making? ≠ none ∧
      (new = none ∧ maker = none ∨
        new = some (.socket id s.directory.freshMode) ∧ maker = some s.listeners.length) ∧
      s.bind path mode id faults = (s.bound none n).put p new maker) ∨
    ∃ p, s.directory.HasRoom path faults p ∧
      s.bind path mode id faults = s.listen (.told path id faults.identify) p (mode % 0o10000) := by
  have hbinds := (s.numbering id).binds path mode faults
  generalize hresult : (s.numbering id).bind path mode faults = result at hbinds
  cases hbinds with
  | kept e hfault =>
    refine .inl ⟨?_, fun p hroom => hfault p ⟨hroom.short, hroom.route, hroom.free⟩⟩
    have hmakers : (fun q => if s.directory.route path = .to q then
        (s.standing q).bind fun _ => s.makers q else s.makers q) = s.makers := by
      funext q
      rw [h.bind_makers q, ite_self]
    have hid : (s.numbering id).nextId = id := rfl
    simp only [bind, hresult, hid, if_true]
    exact congrArg (fun makers => { s.bound none id with makers }) hmakers
  | @spoiled e p new n hroom hfault hnew =>
    have hroute : s.directory.route path = .to p := hroom.route
    have hstanding : Directory.standing p { (s.numbering id).put p new with nextId := n } = new :=
      Directory.standing_put p new (s.numbering id)
    refine .inr (.inl ⟨p, new, new.map fun _ => s.listeners.length, n,
      ⟨hroom.short, hroom.route, hroom.free⟩, hfault, ?_, ?_⟩)
    · obtain rfl | ⟨rfl, -⟩ := hnew
      · exact .inl ⟨rfl, rfl⟩
      · exact .inr ⟨rfl, rfl⟩
    · simp only [bind, hresult, update_makers hroute, hstanding]
      have hmaker : (new.bind fun _ => if n = id then s.makers p else some s.listeners.length) =
          new.map fun _ => s.listeners.length := by
        obtain rfl | ⟨rfl, hn⟩ := hnew
        · rfl
        · exact if_neg hn
      rw [hmaker]
      rfl
  | @made p hroom =>
    have hroute : s.directory.route path = .to p := hroom.route
    have hstanding : ((s.numbering id).withSocket p (mode % 0o10000)).standing p =
        some (.socket id (mode % 0o10000)) := Directory.standing_withSocket p _ _
    have hid : ((s.numbering id).withSocket p (mode % 0o10000)).nextId ≠ id := Nat.succ_ne_self id
    refine .inr (.inr ⟨p, ⟨hroom.short, hroom.route, hroom.free⟩, ?_⟩)
    simp only [bind, hresult, update_makers hroute, hstanding, if_neg hid, Option.bind_some]
    rfl

/-- A listener that is let go takes its file along, or leaves everything. -/
theorem drop_cases (h : Owned s) (hlive : s.listener? k = some f) (faults : Faults) :
    (∃ p, s.directory.Takes f faults p ∧ s.drop k faults = (s.crash k).put p none none) ∨
    (∀ p, ¬s.directory.Takes f faults p) ∧ s.drop k faults = s.crash k := by
  by_cases htakes : ∃ p, s.directory.Takes f faults p
  · obtain ⟨p, htakes⟩ := htakes
    refine .inl ⟨p, htakes, ?_⟩
    have hmakers : (fun q => ((s.directory.put p none).standing q).bind fun _ => s.makers q) =
        Function.update s.makers p none := by
      funext q
      by_cases hq : q = p
      · rw [hq, Directory.standing_put, Function.update_self, Option.bind_none]
      · rw [Directory.standing_put_ne hq, Function.update_of_ne hq]
        exact h.bind_makers q
    simp only [drop, hlive, Directory.release_of_takes htakes, hmakers]
    rfl
  · have hnone : ∀ p, ¬s.directory.Takes f faults p := not_exists.1 htakes
    refine .inr ⟨hnone, ?_⟩
    have hmakers : (fun q => (s.directory.standing q).bind fun _ => s.makers q) = s.makers := funext h.bind_makers
    simp only [drop, hlive, Directory.release_of_not_takes hnone, hmakers]
    rfl

theorem start (d : Directory) : Owned (start d) where
  told h := by simp [listener?, SharedDirectory.start] at h
  file h := by simp [listener?, SharedDirectory.start] at h
  made h := by cases h
  stands _ := rfl

theorem crash (h : Owned s) (k : Nat) : Owned (s.crash k) where
  told hlive := h.told (listener?_crash.1 hlive).2
  file hlive p := h.file (listener?_crash.1 hlive).2 p
  made hmaker := Nat.lt_of_lt_of_eq (h.made hmaker) List.length_set.symm
  stands hnone := h.stands hnone

/-- What is put at a place has a listener's number only if the listener made it. -/
theorem put (h : Owned s) {new : Option File} {maker : Option Nat}
    (hnew : ∀ k f, s.listener? k = some f → (maker = some k ↔ ∃ mode, new = some (.socket f.id mode)))
    (hmade : ∀ k, maker = some k → k < s.listeners.length) (hnone : new = none → maker = none) :
    Owned (s.put p new maker) where
  told hlive := h.told hlive
  file {k f} hlive q := by
    by_cases hq : q = p
    · rw [hq, standing_put, makers_put]
      exact hnew k f hlive
    · rw [standing_put_of_ne hq, makers_put_of_ne hq]
      exact h.file hlive q
  made {q k} hmaker := by
    by_cases hq : q = p
    · rw [hq, makers_put] at hmaker
      exact hmade k hmaker
    · rw [makers_put_of_ne hq] at hmaker
      exact h.made hmaker
  stands {q} hgone := by
    by_cases hq : q = p
    · rw [hq, standing_put] at hgone
      rw [hq, makers_put, hnone hgone]
    · rw [standing_put_of_ne hq] at hgone
      rw [makers_put_of_ne hq, h.stands hgone]

theorem remove (h : Owned s) : Owned (s.put p none none) :=
  h.put (fun _ _ _ => ⟨nofun, nofun⟩) nofun fun _ => rfl

/-- A bind that leaves no listener still counts. -/
theorem refuse (h : Owned s) (n : Nat) : Owned (s.bound none n) where
  told hlive := h.told (((listener?_concat rfl).1 hlive).resolve_right nofun)
  file hlive p := h.file (((listener?_concat rfl).1 hlive).resolve_right nofun) p
  made hmaker := Nat.lt_of_lt_of_le (h.made hmaker) (by simp [bound])
  stands hnone := h.stands hnone

/-- A bind makes a file whose number no listener has and no other file, and leaves a listener that knows this number
as its own if any, or none. -/
theorem make (h : Owned s) {id : Nat} (hunused : s.Unused id p) {listener : Option SocketFile}
    (hnew : ∀ f ∈ listener, f.id = id ∧ ∀ own ∈ f.identity, own = id) (mode n : Nat) :
    Owned ((s.bound listener n).put p (some (.socket id mode)) (some s.listeners.length)) where
  told {k f} hlive := by
    obtain hold | ⟨-, hf⟩ := (listener?_concat rfl).1 hlive
    · exact h.told hold
    · obtain ⟨hid, htold⟩ := hnew f hf
      exact fun own hown => (htold own hown).trans hid.symm
  file {k f} hlive q := by
    obtain hold | ⟨rfl, hf⟩ := (listener?_concat rfl).1 hlive
    · by_cases hq : q = p
      · rw [hq, standing_put, makers_put]
        refine iff_of_false (fun hlast => ?_) fun ⟨_, hid⟩ => ?_
        · exact Nat.ne_of_gt (lt_of_listener? hold) (Option.some.inj hlast)
        · exact hunused.ne hold (File.socket.inj (Option.some.inj hid)).1.symm
      · rw [standing_put_of_ne hq, makers_put_of_ne hq]
        exact h.file hold q
    · rw [(hnew f hf).1]
      by_cases hq : q = p
      · rw [hq, standing_put, makers_put]
        exact iff_of_true rfl ⟨_, rfl⟩
      · rw [standing_put_of_ne hq, makers_put_of_ne hq]
        refine iff_of_false (fun hmaker => ?_) fun ⟨_, hstands⟩ => hq (hunused.eq hstands)
        exact Nat.lt_irrefl _ (h.made hmaker)
  made {q k} hmaker := by
    have hlength : (s.bound listener n).listeners.length = s.listeners.length + 1 := List.length_append
    refine Nat.lt_of_lt_of_eq ?_ hlength.symm
    by_cases hq : q = p
    · rw [hq, makers_put] at hmaker
      cases hmaker
      exact Nat.lt_succ_self _
    · rw [makers_put_of_ne hq] at hmaker
      exact Nat.lt_succ_of_lt (h.made hmaker)
  stands {q} hgone := by
    by_cases hq : q = p
    · rw [hq, standing_put] at hgone
      cases hgone
    · rw [standing_put_of_ne hq] at hgone
      rw [makers_put_of_ne hq]
      exact h.stands hgone

theorem bind (h : Owned s) {path : String} {mode id : Nat} {faults : Faults}
    (hallows : s.Allows (.bind path mode id faults)) : Owned (s.bind path mode id faults) := by
  have hunused : ∀ p, s.directory.HasRoom path faults p → s.Unused id p := fun p hroom =>
    hallows (id, p) (by simp [newNumber?, hroom.route])
  obtain ⟨hkept, -⟩ | ⟨p, new, maker, n, hroom, -, hnew, hspoiled⟩ | ⟨p, hroom, hmade⟩ :=
    h.bind_cases path mode id faults
  · exact hkept ▸ h.refuse id
  · obtain ⟨rfl, rfl⟩ | ⟨rfl, rfl⟩ := hnew
    · exact hspoiled ▸ (h.refuse n).remove
    · exact hspoiled ▸ h.make (hunused p hroom) (fun _ hf => (Option.not_mem_none _ hf).elim) _ n
  · have htold : ∀ f ∈ some (SocketFile.told path id faults.identify), f.id = id ∧ ∀ own ∈ f.identity, own = id := by
      rintro _ ⟨⟩
      exact ⟨rfl, told_told⟩
    exact hmade ▸ h.make (hunused p hroom) htold _ _

theorem drop (h : Owned s) (k : Nat) (faults : Faults) : Owned (s.drop k faults) := by
  cases hlive : s.listener? k with
  | none => exact (drop_of_gone hlive faults).symm ▸ h
  | some f =>
    obtain ⟨p, -, hdrop⟩ | ⟨-, hdrop⟩ := h.drop_cases hlive faults
    · exact hdrop ▸ (h.crash k).remove
    · exact hdrop ▸ h.crash k

theorem step (h : Owned s) {e : Event} (hallows : s.Allows e) : Owned (s.step e) := by
  cases e with
  | bind path mode id faults => exact h.bind hallows
  | drop k faults => exact h.drop k faults
  | crash k => exact h.crash k
  | place p new =>
    refine h.put (fun k f hlive => iff_of_false nofun ?_) nofun fun _ => rfl
    rintro ⟨mode, rfl⟩
    have hunused : s.Unused f.id p := hallows (f.id, p) rfl
    exact hunused.ne hlive rfl
  | link p q => exact h.put (fun k f hlive => h.file hlive p) (fun k => h.made) h.stands
  | lead leads => exact ⟨h.told, h.file, h.made, h.stands⟩

theorem run {events : List Event} (h : Owned s) (hallows : s.AllowsAll events) : Owned (s.run events) := by
  induction events generalizing s with
  | nil => exact h
  | cons e events ih => exact ih (h.step hallows.1) hallows.2

/-- A listener takes along the file at its path if it made it, unless it cannot tell or a call fails. -/
theorem takes_iff (h : Owned s) (hlive : s.listener? k = some f) {faults : Faults} :
    s.directory.Takes f faults p ↔ s.directory.route f.path = .to p ∧ s.makers p = some k ∧
      f.identity.isSome = true ∧ faults.look = none ∧ faults.remove = none := by
  constructor
  · rintro ⟨hroute, hable, id, mode, hidentity, hstands⟩
    cases h.told hlive id hidentity
    exact ⟨hroute, (h.file hlive p).2 ⟨mode, hstands⟩, by rw [hidentity]; rfl, hable⟩
  · rintro ⟨hroute, hmaker, htold, hable⟩
    obtain ⟨id, hidentity⟩ := Option.isSome_iff_exists.1 htold
    obtain ⟨mode, hstands⟩ := (h.file hlive p).1 hmaker
    cases h.told hlive id hidentity
    exact ⟨hroute, hable, _, mode, hidentity, hstands⟩

end Owned
/-! ## What a file survives -/

/-- Something new is put at the place: by a bind that has room for its file there, or by someone else. -/
def ChangesAt (p : Place) (s : SharedDirectory) : Event → Prop
  | .bind path _ _ faults => s.directory.HasRoom path faults p
  | .place q _ | .link _ q => q = p
  | .drop _ _ | .crash _ | .lead _ => False

instance (p : Place) (s : SharedDirectory) (e : Event) : Decidable (s.ChangesAt p e) :=
  match e with
  | .bind path _ _ faults => inferInstanceAs (Decidable (s.directory.HasRoom path faults p))
  | .place q _ | .link _ q => inferInstanceAs (Decidable (q = p))
  | .drop _ _ | .crash _ | .lead _ => isFalse id

/-- Nothing new is put at the place in a run. -/
def Spares (p : Place) : SharedDirectory → List Event → Prop
  | _, [] => True
  | s, e :: events => ¬s.ChangesAt p e ∧ (s.step e).Spares p events

instance decidableSpares (p : Place) :
    (s : SharedDirectory) → (events : List Event) → Decidable (s.Spares p events)
  | _, [] => isTrue trivial
  | s, e :: events =>
    have := decidableSpares p (s.step e) events
    inferInstanceAs (Decidable (¬s.ChangesAt p e ∧ (s.step e).Spares p events))

/-- A place that is spared loses its file only when the listener that made it is let go. -/
theorem standing_step (h : Owned s) {e : Event} (hat : ¬s.ChangesAt p e)
    (hdrop : ∀ k faults, e = .drop k faults → s.makers p ≠ some k) : (s.step e).standing p = s.standing p := by
  cases e with
  | bind path mode id faults =>
    have hne : ∀ q, s.directory.HasRoom path faults q → p ≠ q := fun q hroom hp => hat (hp ▸ hroom)
    obtain ⟨hkept, -⟩ | ⟨q, new, maker, n, hroom, -, -, hspoiled⟩ | ⟨q, hroom, hmade⟩ :=
      h.bind_cases path mode id faults
    · rw [step, hkept]
      rfl
    · rw [step, hspoiled, standing_put_of_ne (hne q hroom)]
      rfl
    · rw [step, hmade, standing_listen_of_ne (hne q hroom)]
  | drop k faults =>
    cases hlive : s.listener? k with
    | none => rw [step, drop_of_gone hlive]
    | some f =>
      obtain ⟨q, htakes, hremoved⟩ | ⟨-, hkept⟩ := h.drop_cases hlive faults
      · have hmaker : s.makers q = some k := ((h.takes_iff hlive).1 htakes).2.1
        have hne : p ≠ q := fun hp => hdrop k faults rfl (hp ▸ hmaker)
        rw [step, hremoved, standing_put_of_ne hne]
        rfl
      · rw [step, hkept]
        rfl
  | crash k | lead leads => rfl
  | place q new | link _ q =>
    have hne : p ≠ q := fun hp => hat hp.symm
    exact standing_put_of_ne hne _ _

/-- The listener of a bind stays or goes. -/
theorem listeners_step (hk : k < s.listeners.length) (e : Event) :
    (s.step e).listeners[k]? = s.listeners[k]? ∨ (s.step e).listeners[k]? = some none := by
  have hset : ∀ j, (s.listeners.set j none)[k]? = s.listeners[k]? ∨ (s.listeners.set j none)[k]? = some none := by
    intro j
    by_cases hj : j = k
    · exact .inr (by rw [hj, List.getElem?_set_self hk])
    · exact .inl (List.getElem?_set_ne hj)
  cases e with
  | bind path mode id faults => exact .inl (List.getElem?_append_left hk)
  | drop j faults =>
    dsimp only [step, drop]
    split
    · exact hset j
    · exact .inl rfl
  | crash j => exact hset j
  | place q new | link _ q | lead leads => exact .inl rfl

theorem listeners_run_of_gone {events : List Event} (hgone : s.listeners[k]? = some none) :
    (s.run events).listeners[k]? = some none := by
  induction events generalizing s with
  | nil => exact hgone
  | cons e events ih =>
    have hk : k < s.listeners.length := (List.getElem?_eq_some_iff.1 hgone).1
    exact ih ((listeners_step hk e).elim (·.trans hgone) id)

/-- A listener that is still there at the end of a run is there after its first step. -/
theorem listener?_step_of_run {e : Event} {events : List Event} (hlive : s.listener? k = some f)
    (hend : (s.run (e :: events)).listener? k = some f) : (s.step e).listener? k = some f := by
  obtain hstays | hgone := listeners_step (lt_of_listener? hlive) e
  · exact (congrArg Option.join hstays).trans hlive
  · have hnone : ((s.step e).run events).listeners[k]? = some none := listeners_run_of_gone hgone
    have hend : ((s.step e).run events).listener? k = some f := hend
    rw [listener?, hnone] at hend
    cases hend

/-- The file of a listener stays while the listener does, unless a bind or someone else changes the place. -/
theorem standing_run (h : Owned s) {events : List Event} (hallows : s.AllowsAll events) {mode : Nat}
    (hstands : s.standing p = some (.socket f.id mode)) (hspares : s.Spares p events)
    (hlive : s.listener? k = some f) (hend : (s.run events).listener? k = some f) :
    (s.run events).standing p = some (.socket f.id mode) := by
  induction events generalizing s with
  | nil => exact hstands
  | cons e events ih =>
    have hnext : (s.step e).listener? k = some f := listener?_step_of_run hlive hend
    have hmaker : s.makers p = some k := (h.file hlive p).2 ⟨mode, hstands⟩
    have hdrop : ∀ j faults, e = .drop j faults → s.makers p ≠ some j := by
      rintro j faults rfl hj
      cases hmaker.symm.trans hj
      exact nomatch (listener?_drop k faults s).symm.trans hnext
    have hstays : (s.step e).standing p = some (.socket f.id mode) :=
      (standing_step h hspares.1 hdrop).trans hstands
    exact ih (h.step hallows.1) hallows.2 hstays hspares.2 hnext hend

/-! ## One bind, one listener let go -/

theorem listener?_of_fresh {t : SharedDirectory} {new : Option SocketFile}
    (h : t.listeners = s.listeners ++ [new]) : t.listener? s.listeners.length = new := by
  rw [listener?, h, List.getElem?_concat_length]
  rfl

/-- A bind that leaves no listener leaves all files, or something failed after an old socket was removed. -/
theorem files_bind_of_refused (h : Owned s) {path : String} {mode id : Nat} {faults : Faults}
    (hnone : (s.bind path mode id faults).listener? s.listeners.length = none) :
    (s.bind path mode id faults).directory.files = s.directory.files ∨
      faults.making? ≠ none ∧ ∃ p, s.directory.HasRoom path faults p ∧
        ((s.bind path mode id faults).standing p = none ∨
          (s.bind path mode id faults).standing p = some (.socket id s.directory.freshMode)) ∧
        ∀ q ≠ p, (s.bind path mode id faults).standing q = s.standing q := by
  obtain ⟨hkept, -⟩ | ⟨p, new, maker, n, hroom, hfault, hnew, hspoiled⟩ | ⟨p, -, hmade⟩ :=
    h.bind_cases path mode id faults
  · exact .inl (hkept ▸ rfl)
  · refine .inr ⟨hfault, p, hroom, ?_, fun q hq => ?_⟩
    · rw [hspoiled, standing_put]
      exact hnew.imp And.left And.left
    · rw [hspoiled, standing_put_of_ne hq]
      rfl
  · rw [hmade, listener?_of_fresh rfl] at hnone
    cases hnone

/-- Where there is room for its file, only a failing call can keep a listener away. -/
theorem listener?_bind_of_room (h : Owned s) {path : String} {faults : Faults}
    (hroom : s.directory.HasRoom path faults p) (hable : faults.making? = none) (mode id : Nat) :
    (s.bind path mode id faults).listener? s.listeners.length = some (.told path id faults.identify) := by
  obtain ⟨-, hfault⟩ | ⟨q, _, _, _, -, hfault, -⟩ | ⟨q, -, hmade⟩ := h.bind_cases path mode id faults
  · exact absurd hable (hfault p hroom)
  · exact absurd hable hfault
  · rw [hmade]
    exact listener?_of_fresh rfl

/-- A listener has a file at the place of its path, the only one with its number, and other files stay. -/
theorem standing_bind (h : Owned s) {path : String} {mode id : Nat} {faults : Faults}
    (hallows : s.Allows (.bind path mode id faults))
    (hlive : (s.bind path mode id faults).listener? s.listeners.length = some f) :
    f = .told path id faults.identify ∧ ∃ p, s.directory.HasRoom path faults p ∧
      (s.bind path mode id faults).standing p = some (.socket id (mode % 0o10000)) ∧
      (s.bind path mode id faults).makers p = some s.listeners.length ∧
      ∀ q ≠ p, (s.bind path mode id faults).standing q = s.standing q ∧ ∀ m, s.standing q ≠ some (.socket id m) := by
  obtain ⟨hkept, -⟩ | ⟨p, _, _, n, -, -, -, hspoiled⟩ | ⟨p, hroom, hmade⟩ := h.bind_cases path mode id faults
  · rw [hkept, listener?_of_fresh rfl] at hlive
    cases hlive
  · rw [hspoiled, listener?_of_fresh rfl] at hlive
    cases hlive
  · rw [hmade, listener?_of_fresh rfl] at hlive
    cases hlive
    have hunused : s.Unused id p := hallows (id, p) (by simp [newNumber?, hroom.route])
    rw [hmade]
    exact ⟨rfl, p, hroom, standing_listen _, makers_listen _,
      fun q hq => ⟨standing_listen_of_ne hq _, fun m hm => hq (hunused.eq hm)⟩⟩

/-- A listener that is let go takes along the file at its path if it made it, and nothing else. -/
theorem standing_drop (h : Owned s) (hlive : s.listener? k = some f) (faults : Faults) (q : Place) :
    (s.drop k faults).standing q =
      if s.directory.route f.path = .to q ∧ s.makers q = some k ∧ f.identity.isSome = true ∧
          faults.look = none ∧ faults.remove = none
        then none else s.standing q := by
  obtain ⟨p, htakes, hremoved⟩ | ⟨hnone, hkept⟩ := h.drop_cases hlive faults
  · by_cases hq : q = p
    · rw [hremoved, hq, standing_put, if_pos ((h.takes_iff hlive).1 htakes)]
    · have hother : ¬s.directory.Takes f faults q :=
        fun hboth => hq (Route.to.inj (hboth.route.symm.trans htakes.route))
      rw [hremoved, standing_put_of_ne hq, if_neg (mt (h.takes_iff hlive).2 hother)]
      rfl
  · rw [hkept, if_neg (mt (h.takes_iff hlive).2 (hnone q))]
    rfl

/-- **A socket file is removed by its owner or for another bind, and by no other listener.** Whatever binds, drops
and crashes there were, whatever others did to places and paths meanwhile, and whatever calls to the system fail: a
bind is refused and leaves everything where the path is too long or something other than a socket stands there. Any
other refused bind leaves all files too, unless a call failed in making the new file; then only what stands at the
place of the path can have changed, where there was room for it. Where there is room and no such call fails, a bind
makes a listener. It leaves at the place a socket, which is the only file with its number, and it leaves the other
files. A listener that is let go takes along what stands at its path if it is the file that the listener made, and
nothing else; it leaves its own file only if it was not told the number of that, or cannot look at it or remove it
now. So the file of a listener that is there stays, unless another bind has room at the place or others change it,
whoever else comes and goes. -/
theorem socket_files_owned {d : Directory} {events : List Event} (h : (start d).AllowsAll events) :
    let s := (start d).run events
    (∀ path mode id faults, pathLimit ≤ path.utf8ByteSize → (s.numbering id).bind path mode faults =
      (.error (.pathTooLong path path.utf8ByteSize pathLimit), s.numbering id)) ∧
    (∀ path mode id faults file, path.utf8ByteSize < pathLimit → s.directory.look path = some file →
      file.number? = none → ∃ e, (s.numbering id).bind path mode faults = (.error e, s.numbering id) ∧
        (faults.look = none → e = .bind (Endpoint.unix path).text SocketFile.occupied)) ∧
    (∀ path mode id faults, (s.bind path mode id faults).listener? s.listeners.length = none →
      (s.bind path mode id faults).directory.files = s.directory.files ∨
        faults.making? ≠ none ∧ ∃ p, s.directory.HasRoom path faults p ∧
          ((s.bind path mode id faults).standing p = none ∨
            (s.bind path mode id faults).standing p = some (.socket id s.directory.freshMode)) ∧
          ∀ q ≠ p, (s.bind path mode id faults).standing q = s.standing q) ∧
    (∀ path mode id faults p, s.directory.HasRoom path faults p → faults.making? = none →
      (s.bind path mode id faults).listener? s.listeners.length = some (.told path id faults.identify)) ∧
    (∀ path mode id faults f, s.Allows (.bind path mode id faults) →
      (s.bind path mode id faults).listener? s.listeners.length = some f →
        f = .told path id faults.identify ∧ ∃ p, s.directory.HasRoom path faults p ∧
          (s.bind path mode id faults).standing p = some (.socket id (mode % 0o10000)) ∧
          (s.bind path mode id faults).makers p = some s.listeners.length ∧
          ∀ q ≠ p, (s.bind path mode id faults).standing q = s.standing q ∧
            ∀ m, s.standing q ≠ some (.socket id m)) ∧
    (∀ k f faults, s.listener? k = some f → ∀ q, (s.drop k faults).standing q =
      if s.directory.route f.path = .to q ∧ s.makers q = some k ∧ f.identity.isSome = true ∧
          faults.look = none ∧ faults.remove = none
        then none else s.standing q) ∧
    (∀ k f p mode, s.listener? k = some f → s.standing p = some (.socket f.id mode) → ∀ later, s.AllowsAll later →
      s.Spares p later → (s.run later).listener? k = some f →
      (s.run later).standing p = some (.socket f.id mode)) := by
  intro s
  have howned : Owned s := (Owned.start d).run h
  exact ⟨fun _ mode _ _ hlong => Directory.bind_of_tooLong hlong mode,
    fun _ mode id _ _ hshort hlook hother => Directory.bind_of_occupied (d := s.numbering id) hshort hlook hother mode,
    fun _ _ _ _ hnone => files_bind_of_refused howned hnone,
    fun _ mode id _ _ hroom hable => listener?_bind_of_room howned hroom hable mode id,
    fun _ _ _ _ _ hallows hlive => standing_bind howned hallows hlive,
    fun _ _ faults hlive => standing_drop howned hlive faults,
    fun _ _ _ _ hlive hstands _ hallows hspares hend => standing_run howned hallows hstands hspares hlive hend⟩

/-- Two listeners in a folder of its own, by a path from the root and by one from the working directory, which lead to
one place. The first goes, and its number is given again, to a socket whose mode cannot be set. A bind to the place of
the second is refused, since the old socket cannot be removed. -/
theorem socket_files_owned_of_rebound :
    let folders (p : Place) : Bool := p.isCommonFolder || p = ⟨none, ["fw", "tmp"]⟩
    let leads (path : String) : Route :=
      Route.among folders (if path.toList.head? = some '/' then path else "/tmp/fw/" ++ path)
    let denied : IoError := ⟨.other, "Operation not permitted (os error 1)"⟩
    let bound : List Event := [.lead leads, .bind "/tmp/fw/fw.sock" 0o600 7, .bind "fw.sock" 0o660 8]
    let later : List Event := [.drop 0, .bind "old.sock" 0o600 7 { setMode := some denied, undo := some denied },
      .bind "fw.sock" 0o600 9 { remove := some denied },
      .link ⟨none, ["old.sock", "fw", "tmp"]⟩ ⟨none, ["copy", "fw", "tmp"]⟩]
    (start {}).AllowsAll bound ∧ ((start {}).run bound).AllowsAll later ∧
    (((start {}).run bound).run later).standing ⟨none, ["copy", "fw", "tmp"]⟩ = some (.socket 7 0o755) ∧
    (((start {}).run bound).run later).standing ⟨none, ["fw.sock", "fw", "tmp"]⟩ = some (.socket 8 0o660) := by
  intro folders leads denied bound later
  have hbound : (start {}).AllowsAll bound := by decide +kernel
  have hlater : ((start {}).run bound).AllowsAll later := by decide +kernel
  have hspares : ((start {}).run bound).Spares ⟨none, ["fw.sock", "fw", "tmp"]⟩ later := by decide +kernel
  obtain ⟨-, -, -, -, -, -, hstays⟩ := socket_files_owned hbound
  exact ⟨hbound, hlater, by decide +kernel,
    hstays 1 (.told "fw.sock" 8 none) ⟨none, ["fw.sock", "fw", "tmp"]⟩ 0o660 (by decide +kernel) (by decide +kernel)
      later hlater hspares (by decide +kernel)⟩

end SharedDirectory
end FrameFeed
