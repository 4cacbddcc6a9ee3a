import FrameFeed.Address.SocketFile
/-!
# Binding and letting go

What one listener does to a directory, whatever calls to the system fail. A bind comes to make a new file only where
its path leads to a place at which nothing stands, or a socket that is seen and removed (`Directory.HasRoom`). There
it leaves a new socket, or is refused because a call after that failed, so that nothing is left at the place or a
socket at which nobody listens; any other bind is refused and leaves the directory as it was (`Directory.Binds`). A
listener that goes removes the socket at its path that has the number of its own, and nothing else
(`Directory.Takes`).
-/
namespace FrameFeed

/-- The first failure in making a new file, after an old one is gone. -/
def Faults.making? (f : Faults) : Option IoError := f.socket <|> f.make <|> f.listen <|> f.setMode

theorem Faults.making?_of_listen {f : Faults} {e : IoError} (h : f.listen = some e) : f.making? ≠ none := by
  simp [making?, h]

theorem Faults.making?_of_setMode {f : Faults} {e : IoError} (h : f.setMode = some e) : f.making? ≠ none := by
  simp [making?, h]

/-- A listener whose file has this number, which it is told unless that fails. -/
def SocketFile.told (path : String) (id : Nat) (fault : Option IoError) : SocketFile :=
  ⟨path, id, if fault.isSome then none else some id⟩

namespace Directory

open SocketFile (pathLimit occupied unusable? told)

variable {path : String} {p q : Place} {d : Directory} {faults : Faults}

/-! ## Places of a directory -/

theorem standing_put (p : Place) (f : Option File) (d : Directory) : (d.put p f).standing p = f := by
  cases f <;> simp [standing, put, List.find?_filter]

theorem standing_put_ne (h : q ≠ p) (f : Option File) (d : Directory) :
    (d.put p f).standing q = d.standing q := by
  have hf : (d.files.filter (·.1 ≠ p)).find? (·.1 = q) = d.files.find? (·.1 = q) := by
    rw [List.find?_filter]
    congr 1
    funext x
    by_cases hx : x.1 = q <;> simp [hx, h]
  cases f <;> simp only [standing, put, Option.map_none, Option.map_some, Option.toList_none,
    Option.toList_some, List.nil_append, List.cons_append, List.find?_cons, Ne.symm h, decide_false, hf]

theorem put_put (p : Place) (f g : Option File) (d : Directory) : (d.put p f).put p g = d.put p g := by
  cases f <;> simp [put, List.filter_filter]

theorem standing_withSocket (p : Place) (mode : Nat) (d : Directory) :
    (d.withSocket p mode).standing p = some (.socket d.nextId mode) := standing_put p _ d

/-- A new socket takes the place of whatever was there. -/
theorem withSocket_put (p : Place) (f : Option File) (mode : Nat) (d : Directory) :
    (d.put p f).withSocket p mode = d.withSocket p mode := by
  have hput := put_put p f (some (.socket d.nextId mode)) d
  exact congrArg (fun t : Directory => { t with nextId := d.nextId + 1 }) hput

theorem look_of_to (h : d.route path = .to p) : d.look path = d.standing p := by
  rw [look, h]

theorem clear_of_to (h : d.route path = .to p) : d.clear path = d.put p none := by
  rw [clear, h]

theorem look_eq_socket {id mode : Nat} (h : d.look path = some (.socket id mode)) :
    ∃ p, d.route path = .to p ∧ d.standing p = some (.socket id mode) := by
  unfold look at h
  split at h
  · next p hroute => exact ⟨p, hroute, h⟩
  · cases h
  · cases h

theorem seen_eq_some {fault : Option IoError} {f : File} :
    d.seen path fault = some f ↔ fault = none ∧ d.look path = some f := by
  cases fault <;> simp [seen]

/-- There is room for a file where a path leads and nothing stands. -/
theorem vacancy_eq_ok : d.vacancy path = .ok p ↔ d.route path = .to p ∧ d.standing p = none := by
  constructor
  · intro h
    unfold vacancy at h
    split at h
    · next q hroute =>
      split at h
      · cases h
      · next hfree =>
        cases h
        exact ⟨hroute, by simpa using hfree⟩
    all_goals cases h
  · rintro ⟨hroute, hfree⟩
    simp only [vacancy, hroute, hfree, Option.isSome_none, Bool.false_eq_true, if_false]

theorem vacancy_of_look {f : File} (h : d.look path = some f) : ∃ e, d.vacancy path = .error e := by
  cases hvacancy : d.vacancy path with
  | error e => exact ⟨e, rfl⟩
  | ok p =>
    obtain ⟨hroute, hfree⟩ := vacancy_eq_ok.1 hvacancy
    rw [look_of_to hroute, hfree] at h
    cases h

/-- A path of a file that is not too long can be the path of a socket. -/
theorem unusable?_of_route (hroute : d.route path = .to p) (hshort : path.utf8ByteSize < pathLimit) :
    unusable? path = none := by
  have hnames : path.toList.contains '\x00' = false := by
    unfold route at hroute
    split at hroute
    · cases hroute
    · next hnames => simpa using (not_or.1 (by simpa using hnames)).2
  simp only [unusable?, hnames, Bool.false_eq_true, if_false, if_neg (Nat.not_le.2 hshort)]

/-! ## What one bind does -/

/-- The path leads to this place, and nothing is in the way of a new file there, or a socket that is removed. -/
structure HasRoom (path : String) (faults : Faults) (p : Place) (d : Directory) : Prop where
  short : path.utf8ByteSize < pathLimit
  route : d.route path = .to p
  free : ∀ f ∈ d.standing p, f.number? ≠ none ∧ faults.look = none ∧ faults.remove = none

instance (path : String) (faults : Faults) (p : Place) (d : Directory) : Decidable (d.HasRoom path faults p) :=
  decidable_of_iff
    (path.utf8ByteSize < pathLimit ∧ d.route path = .to p ∧
      ∀ f ∈ d.standing p, f.number? ≠ none ∧ faults.look = none ∧ faults.remove = none)
    ⟨fun ⟨hshort, hroute, hfree⟩ => ⟨hshort, hroute, hfree⟩, fun h => ⟨h.short, h.route, h.free⟩⟩

/-- What a bind comes to, and the directory that it leaves. -/
inductive Binds (path : String) (mode : Nat) (faults : Faults) (d : Directory) :
    Except EndpointError SocketFile × Directory → Prop where
  | kept (e : EndpointError) (h : ∀ p, d.HasRoom path faults p → faults.making? ≠ none) :
    Binds path mode faults d (.error e, d)
  /-- An old socket is gone, or a new one was made, and then something failed. -/
  | spoiled (e : EndpointError) {p : Place} {new : Option File} {n : Nat} (hroom : d.HasRoom path faults p)
    (h : faults.making? ≠ none) (hnew : new = none ∨ new = some (.socket d.nextId d.freshMode) ∧ n ≠ d.nextId) :
    Binds path mode faults d (.error e, { d.put p new with nextId := n })
  | made {p : Place} (hroom : d.HasRoom path faults p) :
    Binds path mode faults d
      (.ok (told path d.nextId faults.identify), d.withSocket p (mode % 0o10000))

/-- Where nothing stands, a socket is made unless there is none to be had; then it is listened at, or not. -/
theorem create_cases (path : String) (faults : Faults) (d : Directory) :
    (∃ e, d.create path faults = (.error e, d) ∧
      ∀ p, path.utf8ByteSize < pathLimit → d.route path = .to p → d.standing p = none → faults.making? ≠ none) ∨
    ∃ p, d.route path = .to p ∧ d.standing p = none ∧
      d.create path faults = (faults.listen.elim (.ok d.nextId) .error, d.withSocket p d.freshMode) := by
  unfold create
  split
  · next e hfault =>
    refine .inl ⟨e, rfl, fun p hshort hroute _ => ?_⟩
    rw [unusable?_of_route hroute hshort] at hfault
    cases hsocket : faults.socket with
    | some => simp [Faults.making?, hsocket]
    | none =>
      have hmake : faults.make = some e := by simpa [hsocket] using hfault
      simp [Faults.making?, hmake]
  · next e _ hvacancy =>
    refine .inl ⟨e, rfl, fun p _ hroute hfree => ?_⟩
    rw [vacancy_eq_ok.2 ⟨hroute, hfree⟩] at hvacancy
    cases hvacancy
  · next p _ hvacancy =>
    obtain ⟨hroute, hfree⟩ := vacancy_eq_ok.1 hvacancy
    exact .inr ⟨p, hroute, hfree, rfl⟩

theorem setMode_withSocket (hroute : d.route path = .to p) (old mode : Nat) :
    (d.withSocket p old).setMode path mode = d.withSocket p (mode % 0o10000) := by
  have hroute' : (d.withSocket p old).route path = .to p := hroute
  have hlook : (d.withSocket p old).look path = some (.socket d.nextId old) :=
    (look_of_to hroute').trans (standing_withSocket p old d)
  have hput := put_put p (some (.socket d.nextId old)) (some (.socket d.nextId (mode % 0o10000))) d
  rw [setMode, hroute', hlook]
  exact congrArg (fun t : Directory => { t with nextId := d.nextId + 1 }) hput

/-- The number that a new listener is told is the one of its file. -/
theorem seen_withSocket (hroute : d.route path = .to p) (mode : Nat) (fault : Option IoError) :
    ((d.withSocket p mode).seen path fault).bind File.number? =
      if fault.isSome then none else some d.nextId := by
  have hroute' : (d.withSocket p mode).route path = .to p := hroute
  cases fault with
  | some => rfl
  | none => simp [seen, look_of_to hroute', standing_withSocket, File.number?]

/-- What is left of a new file, and of a listener, where nothing stood. -/
theorem establish_cases (path : String) (mode : Nat) (faults : Faults) (d : Directory) :
    (∃ e, d.establish path mode faults = (.error e, d) ∧
      ∀ p, path.utf8ByteSize < pathLimit → d.route path = .to p → d.standing p = none → faults.making? ≠ none) ∨
    ∃ p, d.route path = .to p ∧ d.standing p = none ∧
      ((∃ e new, faults.making? ≠ none ∧ (new = none ∨ new = some (.socket d.nextId d.freshMode)) ∧
          d.establish path mode faults = (.error e, { d.put p new with nextId := d.nextId + 1 })) ∨
        d.establish path mode faults =
          (.ok (told path d.nextId faults.identify), d.withSocket p (mode % 0o10000))) := by
  obtain ⟨e, hcreate, hfault⟩ | ⟨p, hroute, hfree, hcreate⟩ := create_cases path faults d
  · exact .inl ⟨e, by simp only [establish, hcreate], hfault⟩
  refine .inr ⟨p, hroute, hfree, ?_⟩
  cases hlisten : faults.listen with
  | some e =>
    refine .inl ⟨e, _, Faults.making?_of_listen hlisten, .inr rfl, ?_⟩
    simp only [establish, hcreate, hlisten, Option.elim_some, withSocket]
  | none =>
    cases hmode : faults.setMode with
    | some e =>
      cases hundo : faults.undo with
      | some =>
        refine .inl ⟨e, _, Faults.making?_of_setMode hmode, .inr rfl, ?_⟩
        simp only [establish, hcreate, hlisten, Option.elim_none, hmode, hundo, Option.isSome_some, if_true,
          withSocket]
      | none =>
        have hroute' : (d.withSocket p d.freshMode).route path = .to p := hroute
        have hput := put_put p (some (.socket d.nextId d.freshMode)) none d
        refine .inl ⟨e, none, Faults.making?_of_setMode hmode, .inl rfl, ?_⟩
        simp only [establish, hcreate, hlisten, Option.elim_none, hmode, hundo, Option.isSome_none,
          Bool.false_eq_true, if_false, clear_of_to hroute', ← hput]
        rfl
    | none =>
      refine .inr ?_
      simp only [establish, hcreate, hlisten, Option.elim_none, hmode, setMode_withSocket hroute,
        seen_withSocket hroute, told]

theorem bind_of_tooLong (h : pathLimit ≤ path.utf8ByteSize) (mode : Nat) :
    d.bind path mode faults = (.error (.pathTooLong path path.utf8ByteSize pathLimit), d) := if_pos h

/-- Something other than a socket keeps a listener away, seen or not. -/
theorem bind_of_occupied {f : File} (hshort : path.utf8ByteSize < pathLimit) (hlook : d.look path = some f)
    (hf : f.number? = none) (mode : Nat) :
    ∃ e, d.bind path mode faults = (.error e, d) ∧
      (faults.look = none → e = .bind (Endpoint.unix path).text occupied) := by
  have hlong : ¬pathLimit ≤ path.utf8ByteSize := Nat.not_le.2 hshort
  cases hfault : faults.look with
  | none =>
    have hseen : d.seen path faults.look = some f := seen_eq_some.2 ⟨hfault, hlook⟩
    refine ⟨.bind (Endpoint.unix path).text occupied, ?_, fun _ => rfl⟩
    cases f with
    | socket id mode => cases hf
    | regular | folder =>
      rw [hfault] at hseen
      simp only [bind, if_neg hlong, hfault, hseen]
      rfl
  | some fault =>
    obtain ⟨e, he⟩ := vacancy_of_look hlook
    obtain ⟨e', hcreate⟩ : ∃ e, d.create path faults = (.error e, d) := by
      unfold create
      rw [he]
      cases faults.socket <|> unusable? path <|> faults.make <;> exact ⟨_, rfl⟩
    refine ⟨.bind (Endpoint.unix path).text e', ?_, nofun⟩
    simp only [bind, if_neg hlong, seen, hfault, Option.isSome_some, if_true, establish, hcreate]
    rfl

/-- A bind that sees nothing at its path makes a new file, unless something is there all the same. -/
theorem binds_of_unseen (hshort : path.utf8ByteSize < pathLimit) (hseen : d.seen path faults.look = none)
    (mode : Nat) : d.Binds path mode faults (d.bind path mode faults) := by
  have hlong : ¬pathLimit ≤ path.utf8ByteSize := Nat.not_le.2 hshort
  have hfree : ∀ p, d.HasRoom path faults p → d.standing p = none := by
    intro p hroom
    cases hstands : d.standing p with
    | none => rfl
    | some f =>
      have hlook : d.look path = some f := (look_of_to hroom.route).trans hstands
      cases hseen.symm.trans (seen_eq_some.2 ⟨(hroom.free f hstands).2.1, hlook⟩)
  obtain ⟨e, hmade, hfault⟩ | ⟨p, hroute, hstands, ⟨e, new, hfault, hnew, hmade⟩ | hmade⟩ :=
    establish_cases path mode faults d
  all_goals
    simp only [bind, if_neg hlong, hseen, hmade]
  · exact .kept _ fun p hroom => hfault p hshort hroom.route (hfree p hroom)
  · exact .spoiled _ ⟨hshort, hroute, by simp [hstands]⟩ hfault
      (hnew.imp_right fun hnew => ⟨hnew, Nat.succ_ne_self _⟩)
  · exact .made ⟨hshort, hroute, by simp [hstands]⟩

/-- A bind that removes the socket at its path makes a new file in its place. -/
theorem binds_of_removed (hroom : d.HasRoom path faults p) {id old : Nat}
    (hstands : d.standing p = some (.socket id old)) (mode : Nat) :
    d.Binds path mode faults (d.bind path mode faults) := by
  have hlong : ¬pathLimit ≤ path.utf8ByteSize := Nat.not_le.2 hroom.short
  obtain ⟨-, hable, hremove⟩ := hroom.free _ hstands
  have hseen : d.seen path faults.look = some (.socket id old) :=
    seen_eq_some.2 ⟨hable, (look_of_to hroom.route).trans hstands⟩
  have hroute : (d.put p none).route path = .to p := hroom.route
  have hcleared : (d.put p none).standing p = none := standing_put p none d
  simp only [bind, if_neg hlong, hseen, hremove, clear_of_to hroom.route]
  obtain ⟨e, hmade, hfault⟩ | ⟨q, hq, -, hmade⟩ := establish_cases path mode faults (d.put p none)
  · simp only [hmade]
    exact .spoiled _ hroom (hfault p hroom.short hroute hcleared) (.inl rfl)
  cases hroute.symm.trans hq
  obtain ⟨e, new, hfault, hnew, hmade⟩ | hmade := hmade
  · simp only [hmade, put_put]
    exact .spoiled _ hroom hfault (hnew.imp_right fun hnew => ⟨hnew, Nat.succ_ne_self _⟩)
  · simp only [hmade, withSocket_put]
    exact .made hroom

theorem binds (path : String) (mode : Nat) (faults : Faults) (d : Directory) :
    d.Binds path mode faults (d.bind path mode faults) := by
  by_cases hlong : pathLimit ≤ path.utf8ByteSize
  · rw [bind_of_tooLong hlong]
    exact .kept _ fun p hroom => absurd hroom.short (Nat.not_lt.2 hlong)
  have hshort : path.utf8ByteSize < pathLimit := Nat.not_le.1 hlong
  cases hseen : d.seen path faults.look with
  | none => exact binds_of_unseen hshort hseen mode
  | some f =>
    obtain ⟨hable, hlook⟩ := seen_eq_some.1 hseen
    have hfree : ∀ p, d.HasRoom path faults p → f.number? ≠ none ∧ faults.remove = none := by
      intro p hroom
      obtain ⟨hnumber, -, hremove⟩ := hroom.free f ((look_of_to hroom.route).symm.trans hlook)
      exact ⟨hnumber, hremove⟩
    cases f with
    | regular | folder =>
      simp only [bind, if_neg hlong, hseen]
      exact .kept _ fun p hroom => absurd rfl (hfree p hroom).1
    | socket id old =>
      cases hremove : faults.remove with
      | some e =>
        simp only [bind, if_neg hlong, hseen, hremove]
        exact .kept _ fun p hroom => nomatch hremove.symm.trans (hfree p hroom).2
      | none =>
        obtain ⟨p, hroute, hstands⟩ := look_eq_socket hlook
        refine binds_of_removed ⟨hshort, hroute, fun f hf => ?_⟩ hstands mode
        cases hstands.symm.trans hf
        exact ⟨nofun, hable, hremove⟩

/-! ## What a listener takes along -/

/-- A listener that goes finds the file with its number at this place, and removes it. -/
structure Takes (s : SocketFile) (faults : Faults) (p : Place) (d : Directory) : Prop where
  route : d.route s.path = .to p
  able : faults.look = none ∧ faults.remove = none
  own : ∃ id mode, s.identity = some id ∧ d.standing p = some (.socket id mode)

theorem release_of_takes {s : SocketFile} (h : d.Takes s faults p) : d.release s faults = d.put p none := by
  obtain ⟨hroute, ⟨hlook, hremove⟩, id, mode, hidentity, hstands⟩ := h
  have hseen : d.seen s.path faults.look = some (.socket id mode) :=
    seen_eq_some.2 ⟨hlook, (look_of_to hroute).trans hstands⟩
  simp only [release, hidentity, hseen, hremove, if_true, clear_of_to hroute]

theorem release_of_not_takes {s : SocketFile} (h : ∀ p, ¬d.Takes s faults p) : d.release s faults = d := by
  unfold release
  split
  · next own id mode hidentity hseen hremove =>
    refine if_neg ?_
    rintro rfl
    obtain ⟨hlook, hstands⟩ := seen_eq_some.1 hseen
    obtain ⟨p, hroute, hstands⟩ := look_eq_socket hstands
    exact h p ⟨hroute, ⟨hlook, hremove⟩, _, mode, hidentity, hstands⟩
  · rfl

end Directory
end FrameFeed
