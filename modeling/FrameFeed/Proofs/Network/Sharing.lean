import FrameFeed.Proofs.Network.Served
/-!
# One source for many clients

Clients that share a served source see what they would see if they called the source itself, one call after
the other (`Network.perform_served`). The invariant is that every client is idle at the source as it stands
(`Network.Serves`): a call touches the line of its own client only, and leaves the metadata as they are.
-/
namespace FrameFeed

/-- One more client connects to a server, or one of the clients makes a call. -/
inductive Act where
  | connect (s : ClientSettings)
  | call (i : Nat) (d : Deed)

/-- The calls of all clients made on a source, one after the other, and who made them. -/
def Act.alone {σ : Type} (f : Deed → σ → Seen × σ) : List Act → σ → List (Nat × Seen) × σ
  | [], s => ([], s)
  | .connect _ :: acts, s => alone f acts s
  | .call i d :: acts, s =>
    let (r, s) := f d s
    let (log, s) := alone f acts s
    ((i, r) :: log, s)

/-- The frame that a call for the next one shows. -/
def Seen.shown? : Seen → Option View
  | .next (.returned (.ok ())) (.returned (.ok v)) => some v
  | _ => none

/-- Frame number `k` of a source. -/
def PatternSource.view (s : PatternSource) (k : Nat) : View := ⟨s.metadata, s.pattern.render k s.metadata⟩

namespace Client

variable {limit serverLimit : Nat} {s s' : PatternSource} {server server' : Server (Service PatternSource)}
variable {c : Client (Link (Service PatternSource))}

/-- A client that meets the server as the others left it. -/
def meeting (server : Server (Service PatternSource)) (c : Client (Link (Service PatternSource))) :
    Client (Link (Service PatternSource)) :=
  { c with channel := { c.channel with server } }

/-- A client that has just connected is idle. -/
theorem idle_of_rests {l : Link (Service PatternSource)} (e : Endpoint) (h : l.Rests limit serverLimit)
    (hrouter : l.server.router = Router.forSource) (hservice : l.server.service = { source := s, sink := {} }) :
    Idle limit serverLimit s { endpoint := e, channel := l } := by
  refine ⟨rfl, rfl, ?_, h, hrouter, hservice⟩
  intro m hm
  cases hm

/-- A client stays idle while something happens on another line, as long as the metadata stay. -/
theorem Idle.elsewhere (h : (c.meeting server).Idle limit serverLimit s)
    (hline : server'.line? c.channel.id = server.line? c.channel.id) (hrouter : server'.router = server.router)
    (hservice : server'.service = { source := s', sink := {} }) (hmetadata : s'.metadata = s.metadata) :
    (c.meeting server').Idle limit serverLimit s' := by
  refine ⟨h.failure, h.owed, ?_, ⟨h.link.connection, ?_⟩, hrouter.trans h.router, hservice⟩
  · intro m hm
    rw [hmetadata]
    exact h.known m hm
  · obtain ⟨line, hfound, hrests⟩ := h.link.line
    exact ⟨line, hline.trans hfound, hrests⟩

end Client

namespace Deed

theorem served_of_addressable {s : PatternSource} (d : Deed) (h : s.metadata.checkedSize.isSome) :
    d.served s = d.on s := by
  unfold served
  rw [if_pos h]

theorem metadata_served (d : Deed) (s : PatternSource) : (d.served s).2.metadata = s.metadata := by
  unfold served
  cases d with
  | metadata => split <;> rfl
  | next =>
    split
    · exact s.metadata_next
    · rfl
  | execute a => split <;> exact s.metadata_execute a

end Deed

theorem Act.alone_append {σ : Type} (f : Deed → σ → Seen × σ) (before after : List Act) (s : σ) :
    alone f (before ++ after) s =
      ((alone f before s).1 ++ (alone f after (alone f before s).2).1,
        (alone f after (alone f before s).2).2) := by
  induction before generalizing s with
  | nil => rfl
  | cons a before ih =>
    cases a with
    | connect c => exact ih s
    | call i d => simp only [List.cons_append, alone, ih]

/-- Calls of clients are calls of the source itself where its frames can be addressed. -/
theorem Act.alone_served {s : PatternSource} (acts : List Act) (h : s.metadata.checkedSize.isSome) :
    alone Deed.served acts s = alone Deed.on acts s := by
  induction acts generalizing s with
  | nil => rfl
  | cons a acts ih =>
    cases a with
    | connect c => exact ih h
    | call i d =>
      have hserved := d.served_of_addressable h
      have hmetadata : (d.on s).2.metadata = s.metadata := hserved ▸ d.metadata_served s
      have hrest := ih (s := (d.on s).2) (by rw [hmetadata]; exact h)
      simp only [alone, hserved, hrest]

/-- A call that is not a reset shows the next frame or none. -/
theorem Deed.shown_served (d : Deed) (s : PatternSource) (h : d ≠ .execute "reset") :
    (d.served s).2.view = s.view ∧
      ((d.served s).1.shown? = none ∧ (d.served s).2.produced = s.produced ∨
        (d.served s).1.shown? = some (s.view s.produced) ∧ (d.served s).2.produced = s.produced + 1) := by
  have hon : (d.on s).2.view = s.view ∧ ((d.on s).1.shown? = none ∧ (d.on s).2.produced = s.produced ∨
      (d.on s).1.shown? = some (s.view s.produced) ∧ (d.on s).2.produced = s.produced + 1) := by
    cases d with
    | metadata => exact ⟨rfl, .inl ⟨rfl, rfl⟩⟩
    | next =>
      have hnext : Deed.next.on s = (.next (.returned s.next.1) (.returned s.next.2.current), s.next.2) := rfl
      rw [hnext]
      rcases s.next_cases with hover | hframe
      · rw [hover]
        exact ⟨rfl, .inl ⟨rfl, rfl⟩⟩
      · rw [hframe]
        exact ⟨rfl, .inr ⟨rfl, rfl⟩⟩
    | execute a =>
      have hexecute : (Deed.execute a).on s = (.execute (.error (.unsupportedAction a)), s) := by
        have ha : a ≠ "reset" := fun ha => h (ha ▸ rfl)
        show (Seen.execute (.returned (s.execute a).1), (s.execute a).2) = _
        rw [PatternSource.execute, if_neg ha]
        rfl
      rw [hexecute]
      exact ⟨rfl, .inl ⟨rfl, rfl⟩⟩
  unfold served
  split
  · exact hon
  · cases d with
    | metadata => exact ⟨rfl, .inl ⟨rfl, rfl⟩⟩
    | next => exact ⟨rfl, .inl ⟨rfl, rfl⟩⟩
    | execute a => exact hon

/-- Without a reset, the frames that are shown are numbered one after the other. -/
theorem Act.shown_alone {s : PatternSource} (acts : List Act) (h : ∀ i, .call i (.execute "reset") ∉ acts) :
    s.produced ≤ (alone Deed.served acts s).2.produced ∧
      (alone Deed.served acts s).1.filterMap (·.2.shown?) =
        (List.range' s.produced ((alone Deed.served acts s).2.produced - s.produced)).map s.view := by
  induction acts generalizing s with
  | nil => simp [alone]
  | cons a acts ih =>
    have hrest : ∀ i, .call i (.execute "reset") ∉ acts := fun i hi => h i (.tail _ hi)
    cases a with
    | connect c => exact ih hrest
    | call i d =>
      have hd : d ≠ .execute "reset" := fun hd => h i (hd ▸ .head _)
      obtain ⟨hview, hshown⟩ := d.shown_served s hd
      obtain ⟨hle, hframes⟩ := ih (s := (d.served s).2) hrest
      simp only [alone, List.filterMap_cons]
      rw [hview] at hframes
      rcases hshown with ⟨hnone, hsame⟩ | ⟨hsome, hmore⟩
      · rw [hnone, hframes, hsame]
        exact ⟨hsame ▸ hle, rfl⟩
      · rw [hsome, hframes, hmore]
        refine ⟨by omega, ?_⟩
        have hcount : (alone Deed.served acts (d.served s).2).2.produced - s.produced =
            (alone Deed.served acts (d.served s).2).2.produced - (s.produced + 1) + 1 := by omega
        rw [hcount, List.range'_succ, List.map_cons]

namespace Network

/-- A server of a source before anybody connects. -/
def serving (settings : ServerSettings) (s : PatternSource) : Network (Service PatternSource) :=
  { server := { router := Router.forSource, service := { source := s, sink := {} }, settings } }

/-- One act, and what the call came to. -/
def act {τ : Type} (a : Act) (n : Network τ) : List (Nat × Seen) × Network τ :=
  match a with
  | .connect s => ([], (n.connect s).2)
  | .call i d =>
    let (r, n) := n.call i d.on
    (r.toList.map (i, ·), n)

/-- One act after the other. -/
def perform {τ : Type} : List Act → Network τ → List (Nat × Seen) × Network τ
  | [], n => ([], n)
  | a :: acts, n =>
    let (log, n) := n.act a
    let (log', n) := perform acts n
    (log ++ log', n)

/-- The acts meet no obstacle where the clients so far have these limits: who connects has deadlines that can
be set, who calls has connected, and both sides take the messages of the call. -/
def Smooth (serverLimit : Nat) : List Nat → List Act → PatternSource → Prop
  | _, [], _ => True
  | limits, .connect c :: acts, s =>
    Connection.setDeadlines c.readTimeout c.writeTimeout = .ok () ∧
      Smooth serverLimit (limits ++ [c.maxPayload]) acts s
  | limits, .call i d :: acts, s =>
    (∃ limit, limits[i]? = some limit ∧ Client.Fit limit serverLimit (d.messages s)) ∧
      Smooth serverLimit limits acts (d.served s).2

/-- A server of a source in this state, at which clients with these limits are idle. The line of each has its
number, from one. -/
structure Serves (serverSettings : ServerSettings) (limits : List Nat) (s : PatternSource)
    (n : Network (Service PatternSource)) : Prop where
  router : n.server.router = Router.forSource
  service : n.server.service = { source := s, sink := {} }
  settings : n.server.settings = serverSettings
  stopping : n.server.stopping = false
  nextId : n.server.nextId = limits.length + 1
  ids : ∀ line ∈ n.server.lines, line.id < n.server.nextId
  length : n.clients.length = limits.length
  client : ∀ i limit, limits[i]? = some limit → ∃ c, n.clients[i]? = some (some c) ∧
    c.channel.id = i + 1 ∧ (c.meeting n.server).Idle limit serverSettings.maxPayload s

variable {settings : ServerSettings} {limits : List Nat} {s : PatternSource}
variable {n : Network (Service PatternSource)}

theorem serves_serving (settings : ServerSettings) (s : PatternSource) :
    (serving settings s).Serves settings [] s := by
  refine ⟨rfl, rfl, rfl, rfl, rfl, ?_, rfl, ?_⟩
  · intro line hline
    cases hline
  · intro i limit hlimit
    cases hlimit

/-- One more client connects. -/
theorem Serves.connect {c : ClientSettings} (h : n.Serves settings limits s)
    (hserver : Connection.setDeadlines settings.idleTimeout settings.writeTimeout = .ok ())
    (hclient : Connection.setDeadlines c.readTimeout c.writeTimeout = .ok ()) :
    (n.connect c).2.Serves settings (limits ++ [c.maxPayload]) s := by
  rw [← h.settings] at hserver
  obtain ⟨hid, hrests, hrouter, hservice, hsettings, hstopping, hnextId, hids, hothers⟩ :=
    Link.dial_spec c.maxPayload h.ids h.stopping hserver
  have hstart : Client.start c (Link.dial c.maxPayload n.server) =
      .ok { endpoint := c.endpoint, channel := Link.dial c.maxPayload n.server } := by
    rw [Client.start, hclient]
  have hconnect : (n.connect c).2 = ⟨(Link.dial c.maxPayload n.server).server, n.clients ++
      [some { endpoint := c.endpoint, channel := Link.dial c.maxPayload n.server }]⟩ := by
    rw [Network.connect, hstart]
  generalize Link.dial c.maxPayload n.server = l at *
  rw [hconnect]
  refine ⟨hrouter.trans h.router, hservice.trans h.service, hsettings.trans h.settings,
    hstopping.trans h.stopping, ?_, ?_, ?_, ?_⟩
  · rw [hnextId, h.nextId, List.length_append]
    rfl
  · rw [hnextId]
    exact hids
  · simp [h.length]
  · intro i limit hlimit
    rcases Nat.lt_or_ge i limits.length with hold | hnew
    · -- a client that was there before
      rw [List.getElem?_append_left hold] at hlimit
      obtain ⟨c', hc', hnumber, hidle⟩ := h.client i limit hlimit
      refine ⟨c', ?_, hnumber, hidle.elsewhere (hothers _ ?_) hrouter (hservice.trans h.service) rfl⟩
      · rw [List.getElem?_append_left (h.length ▸ hold)]
        exact hc'
      · rw [hnumber, h.nextId]
        omega
    · -- the new one
      have hi : i = limits.length := by
        have := (List.getElem?_eq_some_iff.1 hlimit).1
        rw [List.length_append, List.length_singleton] at this
        omega
      subst hi
      rw [List.getElem?_concat_length] at hlimit
      cases hlimit
      refine ⟨{ endpoint := c.endpoint, channel := l }, ?_, hid.trans h.nextId, ?_⟩
      · rw [← h.length]
        exact List.getElem?_concat_length
      · rw [← h.settings]
        exact Client.idle_of_rests _ hrests (hrouter.trans h.router) (hservice.trans h.service)

/-- One of the clients makes a call. -/
theorem Serves.call {i limit : Nat} {d : Deed} (h : n.Serves settings limits s) (hi : limits[i]? = some limit)
    (hfit : Client.Fit limit settings.maxPayload (d.messages s)) :
    (n.call i d.on).1 = some (d.served s).1 ∧
      (n.call i d.on).2.Serves settings limits (d.served s).2 := by
  obtain ⟨c, hc, hnumber, hidle⟩ := h.client i limit hi
  obtain ⟨hseen, hback⟩ := d.on_client hidle hfit
  have hclient : n.client? i = some c := by
    rw [client?, hc]
    rfl
  have hcall : n.call i d.on = (some (d.on (c.meeting n.server)).1,
      ⟨(d.on (c.meeting n.server)).2.channel.server, n.clients.set i (some (d.on (c.meeting n.server)).2)⟩) := by
    rw [Network.call, hclient]
    rfl
  generalize d.on (c.meeting n.server) = p at *
  obtain ⟨r, c'⟩ := p
  dsimp only at hseen hback hcall
  have hbeside : Server.Beside (i + 1) n.server c'.channel.server := hnumber ▸ hback.beside
  rw [hcall]
  refine ⟨congrArg some hseen, hback.idle.router, hback.idle.service, hbeside.settings.trans h.settings,
    hbeside.stopping.trans h.stopping, hbeside.nextId.trans h.nextId, ?_, ?_, ?_⟩
  · rw [hbeside.nextId]
    exact hbeside.below h.ids
  · rw [List.length_set]
    exact h.length
  · intro j limit' hj
    by_cases hji : j = i
    · -- the one that called
      subst hji
      cases hi.symm.trans hj
      refine ⟨c', ?_, hback.id.trans hnumber, hback.idle⟩
      exact List.getElem?_set_self (List.getElem?_eq_some_iff.1 hc).1
    · -- another one
      obtain ⟨c₁, hc₁, hnumber₁, hidle₁⟩ := h.client j limit' hj
      refine ⟨c₁, ?_, hnumber₁, hidle₁.elsewhere (hbeside.others _ ?_) hbeside.router hback.idle.service
        (d.metadata_served s)⟩
      · rw [List.getElem?_set_ne (Ne.symm hji)]
        exact hc₁
      · rw [hnumber₁]
        omega

/-- The clients see the source that is served. -/
theorem Serves.perform {acts : List Act} (h : n.Serves settings limits s)
    (hserver : Connection.setDeadlines settings.idleTimeout settings.writeTimeout = .ok ())
    (hsmooth : Smooth settings.maxPayload limits acts s) :
    (n.perform acts).1 = (Act.alone Deed.served acts s).1 ∧
      (n.perform acts).2.server.service = { source := (Act.alone Deed.served acts s).2, sink := {} } := by
  induction acts generalizing n limits s with
  | nil => exact ⟨rfl, h.service⟩
  | cons a acts ih =>
    cases a with
    | connect c => exact ih (h.connect hserver hsmooth.1) hsmooth.2
    | call i d =>
      obtain ⟨⟨limit, hi, hfit⟩, hsmooth⟩ := hsmooth
      obtain ⟨hseen, hserves⟩ := h.call hi hfit
      obtain ⟨hlog, hservice⟩ := ih hserves hsmooth
      have hact : n.act (.call i d) = ([(i, (d.served s).1)], (n.call i d.on).2) := by
        simp only [act, hseen]
        rfl
      rw [Network.perform, hact]
      refine ⟨?_, hservice⟩
      exact congrArg ((i, (d.served s).1) :: ·) hlog

/-- **A served source is the source itself.** Each call of each client comes to what it comes to on one source
that takes all calls in turn, where frames can be addressed; where they cannot, metadata and frames are
refused. After the last reset, the frames that clients are shown are those that the source makes, each in one
call of one client. -/
theorem perform_served {acts : List Act}
    (hserver : Connection.setDeadlines settings.idleTimeout settings.writeTimeout = .ok ())
    (hsmooth : Smooth settings.maxPayload [] acts s) :
    let run := (serving settings s).perform acts
    let served := Act.alone Deed.served acts s
    run.1 = served.1 ∧ run.2.server.service = { source := served.2, sink := {} } ∧
      (s.metadata.checkedSize.isSome → served = Act.alone Deed.on acts s) ∧
      ∀ before after, acts = before ++ after → (∀ i, .call i (.execute "reset") ∉ after) →
        let (log, mid) := Act.alone Deed.served before s
        ∃ log', run.1 = log ++ log' ∧ log'.filterMap (·.2.shown?) =
          (List.range' mid.produced (served.2.produced - mid.produced)).map mid.view := by
  intro run served
  obtain ⟨hlog, hservice⟩ := (serves_serving settings s).perform hserver hsmooth
  refine ⟨hlog, hservice, Act.alone_served acts, ?_⟩
  intro before after hacts hreset
  have hsplit : served = _ := hacts ▸ Act.alone_append Deed.served before after s
  refine ⟨_, hlog.trans (congrArg Prod.fst hsplit), ?_⟩
  rw [hsplit]
  exact (Act.shown_alone after hreset).2

/-- Two clients by turns at a ramp of three frames. -/
def turns : List Act :=
  [.connect {}, .connect {}, .call 0 .next, .call 1 .next, .call 0 (.execute "zoom"), .call 1 .metadata,
    .call 1 .next, .call 0 .next]

def ramp : PatternSource where
  metadata := ⟨.uint8, 2, 1, .grayscale, .planar, "topLeft"⟩
  pattern := .ramp
  limit := some 3

theorem smooth_turns : Smooth Message.defaultLimit [] turns ramp := by
  refine ⟨rfl, rfl, ⟨_, rfl, ?_⟩, ⟨_, rfl, ?_⟩, ⟨_, rfl, ?_⟩, ⟨_, rfl, ?_⟩, ⟨_, rfl, ?_⟩, ⟨_, rfl, ?_⟩, trivial⟩
  all_goals decide +kernel

theorem perform_served_turns :
    ((serving {} ramp).perform turns).1 =
      [(0, .next (.ok ()) (.ok ⟨ramp.metadata, [0, 1]⟩)), (1, .next (.ok ()) (.ok ⟨ramp.metadata, [1, 2]⟩)),
        (0, .execute (.error (.unsupportedAction "zoom"))), (1, .metadata (.ok ramp.metadata)),
        (1, .next (.ok ()) (.ok ⟨ramp.metadata, [2, 3]⟩)), (0, .next (.error .endOfStream) (.error .noFrame))] := by
  have hserver : Connection.setDeadlines ({} : ServerSettings).idleTimeout ({} : ServerSettings).writeTimeout =
      .ok () := rfl
  obtain ⟨hlog, -, hserved, -⟩ := perform_served hserver smooth_turns
  rw [hlog, hserved (by decide)]
  rfl

def enormous : PatternSource where
  metadata := ⟨.float64, 0xffffffff, 0xffffffff, .rgba, .planar, "topLeft"⟩
  pattern := .ramp

/-- Metadata of a frame too large to address are short themselves, and a client refuses them. -/
theorem perform_enormous :
    let acts : List Act := [.connect {}, .call 0 .metadata]
    Smooth Message.defaultLimit [] acts enormous ∧
      ((serving {} enormous).perform acts).1 = [(0, .metadata (.error (.formatUnsupported
        "4294967295x4294967295 RGBA planar float64 (topLeft) does not fit in memory")))] ∧
      (Act.alone Deed.on acts enormous).1 = [(0, .metadata (.ok enormous.metadata))] ∧
      ((serving {} enormous).perform acts).1 ≠ (Act.alone Deed.on acts enormous).1 := by
  intro acts
  have hsmooth : Smooth Message.defaultLimit [] acts enormous := ⟨rfl, ⟨_, rfl, by decide +kernel⟩, trivial⟩
  have hlog := ((serves_serving {} enormous).perform rfl hsmooth).1
  have hserved : (Act.alone Deed.served acts enormous).1 = [(0, .metadata (.error (.formatUnsupported
      "4294967295x4294967295 RGBA planar float64 (topLeft) does not fit in memory")))] := by
    have hsize : enormous.metadata.checkedSize.isSome = false := by decide +kernel
    have htext : Deed.unaddressable enormous.metadata = .formatUnsupported
        "4294967295x4294967295 RGBA planar float64 (topLeft) does not fit in memory" := by decide +kernel
    simp only [acts, Act.alone, Deed.served, hsize, htext]
    rfl
  have hlocal : (Act.alone Deed.on acts enormous).1 = [(0, .metadata (.ok enormous.metadata))] := rfl
  rw [hlog, hserved, hlocal]
  refine ⟨hsmooth, rfl, rfl, fun hsame => ?_⟩
  simp [Call.error, Call.ok] at hsame

end Network
end FrameFeed
