import ClusterMembership.Proofs.FormTexts
import ClusterMembership.Proofs.RequestScripts
import Mathlib.Data.List.Forall2
import Mathlib.Data.List.Nodup
/-!
# The nodes that requests name

The posts of a call are those of its steps, and the peer sees them in this order up to where the call stops
(`posted_steps`).  A call that changes a pool reads the pool first, so it names the nodes of that pool: a rebalance names all
of them and ejects the one that leaves, which is never the last, and a recovery names the failed node alone
(`pool_nodes_named`).
-/
namespace ClusterMembership.Rest

/-- A path and the form that is posted to it. -/
abbrev Post := String × Text.Form

/-- The posts of some steps. -/
def postsOf (steps : List Step) : List Post := steps.filterMap fun s => s.form.map (s.path, ·)

/-- The request posts a form to a path of a node: read as a form, its body has these fields and no others. -/
structure Request.Posts (options : Options) (node : Target) (post : Post) (r : Request) : Prop where
  method : r.method = "POST"
  url : ∃ url, Url.parse? (options.scheme ++ "://" ++ node.address.text ++ post.1) = some url ∧
    r.url = url.destination.withoutFragment.text
  contentType : r.contentType = some formType
  fields : Text.Form.fields? r.body = some post.2

/-- The requests that post something post these forms, in this order. -/
def ArePosted (options : Options) (node : Target) (posts : List Post) (sent : List Request) : Prop :=
  List.Forall₂ (Request.Posts options node) posts (sent.filter (·.method = "POST"))

/-- Of a call the peer sees these posts up to where the call stops, and all of them if the call succeeds, whoever waits
for it. -/
def Posted (options : Options) (p : Peer) (c : Call) (posts : List Post) : Prop :=
  ∃ sent seen, seen <+: posts ∧ ArePosted options (addressee c) seen sent ∧
    ((perform options p c).1.seen = p.seen ++ sent ∧ ((perform options p c).2 = none → seen = posts)) ∧
    ∀ limit, (performWithin options p limit c).1.seen = p.seen ++ sent ∧
      ((performWithin options p limit c).2.1 = .done → seen = posts)

section

variable {l : Line} {options : Options} {node : Target} {s : Step}

theorem ArePosted.append {posts more : List Post} {sent next : List Request} (h : ArePosted options node posts sent)
    (h' : ArePosted options node more next) : ArePosted options node (posts ++ more) (sent ++ next) := by
  unfold ArePosted
  rw [List.filter_append]
  exact List.rel_append h h'

theorem postsOf_cons (s : Step) (steps : List Step) : postsOf (s :: steps) = postsOf [s] ++ postsOf steps :=
  List.filterMap_append (l := [s])

theorem request_posts (ho : l.options = options) (ha : l.address = node.address) {path : String} {form : Text.Form}
    {url : Url} (hu : l.url? path = some url) : (l.request url (some form)).Posts options node (path, form) where
  method := rfl
  url := by
    obtain ⟨hparse, -⟩ := Option.filter_eq_some_iff.1 hu
    rw [Line.urlText, ho, ha] at hparse
    exact ⟨url, hparse, rfl⟩
  contentType := rfl
  fields := Text.Form.fields?_encode form

/-- **The request of a step posts what the step posts.** -/
theorem step_posted (ho : l.options = options) (ha : l.address = node.address) {url : Url}
    (hu : l.url? s.path = some url) : ArePosted options node (postsOf [s]) (requests l [s]) := by
  rw [requests_of_sent hu]
  obtain ⟨path, form, accepts⟩ := s
  cases form with
  | none => exact .nil
  | some form => exact .cons (request_posts ho ha hu) .nil

/-- **The peer sees the posts of the steps up to the first that fails**, and that one's unless the request does not come to
it. -/
theorem posts_progress (ho : l.options = options) (ha : l.address = node.address) (ss : List Step)
    (reaction : Nat → Reaction) :
    ∃ seen, seen <+: postsOf (ss.take (progress l ss reaction + 1)) ∧
      ArePosted options node seen (requests l (ss.take (reach l ss reaction))) ∧
      (progress l ss reaction = ss.length → seen = postsOf ss) := by
  induction ss generalizing reaction with
  | nil => exact ⟨[], List.nil_prefix, by rw [List.take_nil]; exact .nil, fun _ => rfl⟩
  | cons s ss ih =>
    cases hs : s.succeeds l (reaction 0) with
    | true =>
      obtain ⟨⟨url, hu⟩, -⟩ := Step.succeeds_iff.1 hs
      obtain ⟨seen, hseen, hposted, hall⟩ := ih fun i => reaction (i + 1)
      rw [progress_of_succeeds hs, reach_of_succeeds hs, List.take_succ_cons, List.take_succ_cons, postsOf_cons,
        postsOf_cons s ss, requests_cons]
      refine ⟨postsOf [s] ++ seen, (List.prefix_append_right_inj _).2 hseen, (step_posted ho ha hu).append hposted, ?_⟩
      exact fun hn => by rw [hall (Nat.succ.inj hn)]
    | false =>
      rw [progress_of_fails hs, reach_of_fails hs]
      by_cases hc : (reaction 0).connects = true
      · rw [if_pos hc, List.take_succ_cons, List.take_zero]
        cases hu : l.url? s.path with
        | none =>
          refine ⟨[], List.nil_prefix, ?_, nofun⟩
          rw [requests_of_unsent hu]
          exact .nil
        | some url => exact ⟨postsOf [s], List.prefix_rfl, step_posted ho ha hu, nofun⟩
      · rw [if_neg hc]
        exact ⟨[], List.nil_prefix, .nil, nofun⟩

theorem progress_le_length (l : Line) (ss : List Step) (reaction : Nat → Reaction) :
    progress l ss reaction ≤ ss.length := by
  induction ss generalizing reaction with
  | nil => exact Nat.le_refl 0
  | cons s ss ih =>
    rw [progress]
    split
    · exact Nat.succ_le_succ (ih _)
    · exact Nat.zero_le _

end

variable {options : Options} {p : Peer} {pool : Pool} {a : Address}

/-- **The peer sees the posts of a call up to the step where it stops**, and so up to any later one. -/
theorem posted_take (c : Call) {m : Nat}
    (hm : progress (lineOf options none c) (steps options p.pool c) p.reaction < m) :
    Posted options p c (postsOf ((steps options p.pool c).take m)) := by
  obtain ⟨⟨hseen, -, hok⟩, hwithin⟩ := perform_follows options c p
  have haddress : (lineOf options none c).address = (addressee c).address := rfl
  obtain ⟨seen, hprefix, hposted, hall⟩ :=
    posts_progress (l := lineOf options none c) rfl haddress (steps options p.pool c) p.reaction
  generalize hn : progress (lineOf options none c) (steps options p.pool c) p.reaction = n at *
  generalize steps options p.pool c = ss at *
  have hend (hdone : n = ss.length) : seen = postsOf (ss.take m) := by
    rw [List.take_of_length_le (by omega)]
    exact hall hdone
  have hlater : postsOf (ss.take (n + 1)) <+: postsOf (ss.take m) := by
    have htake : ss.take (n + 1) <+: ss.take m := List.take_prefix_take_left hm
    exact htake.filterMap _
  exact ⟨_, seen, hprefix.trans hlater, hposted, ⟨hseen, fun hnone => hend (hok.1 hnone)⟩,
    fun limit => ⟨(hwithin limit).1, fun hdone => hend ((hwithin limit).2.2.1 hdone)⟩⟩

theorem posted_steps (options : Options) (p : Peer) (c : Call) :
    Posted options p c (postsOf (steps options p.pool c)) := by
  have hlt := Nat.lt_succ_of_le (progress_le_length (lineOf options none c) (steps options p.pool c) p.reaction)
  have h := posted_take c hlt
  rwa [List.take_of_length_le (Nat.le_succ _)] at h

/-! ## Pools -/

/-- The peer's next response carries a pool. -/
def Peer.Serves (p : Peer) (pool : Pool) : Prop := ∃ r, p.reaction 0 = .respond r ∧ r.pool? = some pool

theorem Peer.Serves.pool_eq (h : p.Serves pool) : p.pool = pool := by
  obtain ⟨r, hr, hpool⟩ := h
  exact Peer.pool_of_respond hr hpool

/-- **A call that finds the pool not as wanted posts nothing.** -/
theorem Peer.Serves.posted_nil (h : p.Serves pool) {c : Call} {wanted : Pool → Bool} {rest : List Step}
    (hsteps : steps options pool c = .pool wanted :: rest) (hwanted : wanted pool = false) : Posted options p c [] := by
  have hfails : Step.succeeds (lineOf options none c) (.pool wanted) (p.reaction 0) = false := by
    rw [Bool.eq_false_iff]
    intro hs
    obtain ⟨-, r, hr, haccepts⟩ := Step.succeeds_iff.1 hs
    obtain ⟨r', hr', hpool⟩ := h
    cases hr.symm.trans hr'
    have hany : r.pool?.any wanted = true := haccepts
    rw [hpool, Option.any_some, hwanted] at hany
    cases hany
  have hn : progress (lineOf options none c) (steps options p.pool c) p.reaction < 1 := by
    rw [h.pool_eq, hsteps, progress_of_fails hfails]
    exact Nat.one_pos
  have hposted := posted_take c hn
  rwa [h.pool_eq, hsteps] at hposted

/-- The first node of the pool at an address. -/
def Pool.FirstAt (pool : Pool) (a : Address) (node : PoolNode) : Prop :=
  ∃ before after, pool.nodes = before ++ node :: after ∧ node.hostname = a.text ∧ ∀ n ∈ before, n.hostname ≠ a.text

theorem Pool.FirstAt.find? {node : PoolNode} (h : pool.FirstAt a node) : pool.find? a = some node := by
  obtain ⟨before, after, hnodes, hat, hbefore⟩ := h
  rw [Pool.find?, List.find?_eq_some_iff_append]
  exact ⟨decide_eq_true hat, before, after, hnodes, fun n hn => by simpa using hbefore n hn⟩

theorem Pool.FirstAt.mem {node : PoolNode} (h : pool.FirstAt a node) : node ∈ pool.nodes := by
  obtain ⟨before, after, hnodes, -⟩ := h
  rw [hnodes]
  exact List.mem_append_right _ List.mem_cons_self

theorem Pool.find?_eq_none (h : ∀ node ∈ pool.nodes, node.hostname ≠ a.text) : pool.find? a = none :=
  List.find?_eq_none.2 fun node hn => by simpa using h node hn

/-- **The names of the known nodes are read back**, in the order of the pool. -/
theorem pieces_known (hne : pool.nodes ≠ []) (hcomma : ∀ name ∈ pool.names, ',' ∉ name.toList) :
    Text.pieces ',' (String.intercalate "," pool.names).toList = pool.names.map String.toList := by
  rw [String.toList_intercalate]
  refine Text.pieces_intercalate (by simpa [Pool.names] using hne) fun cs hcs => ?_
  obtain ⟨name, hname, rfl⟩ := List.mem_map.1 hcs
  exact hcomma name hname

/-- **One of several nodes with names of their own is not the only one named.** -/
theorem exists_other_name (hnames : pool.names.Nodup) (hlen : pool.nodes.length ≠ 1) {name : String}
    (h : name ∈ pool.names) : ∃ other ∈ pool.names, other ≠ name := by
  have hne : pool.names ≠ [name] := fun hone => hlen ((List.length_map _).symm.trans (congrArg List.length hone))
  exact ((hnames.ne_singleton_iff name).1 hne).resolve_left (List.ne_nil_of_mem h)

/-- The post that starts a rebalance. -/
def rebalancePost (known ejected : String) : Post :=
  ("/controller/rebalance", [("knownNodes", known), ("ejectedNodes", ejected)])

/-- **Ejection and rebalance name the right nodes.**  For a pool whose nodes have names of their own, without commas, what
every rebalance gives as the known nodes is split into exactly the names of the pool.  A leave ejects the first node at the
leaving address, which is one of them and not the only one; a rebalance and a recovery eject none; and a recovery fails over
and recovers the first node at the failed address, and no other node has its name.  Where there is no such node, or it would
be the last to leave, nothing is posted at all. -/
theorem pool_nodes_named (options : Options) {p : Peer} {pool : Pool} (hserved : p.Serves pool) (hne : pool.nodes ≠ [])
    (hnames : pool.names.Nodup) (hcomma : ∀ name ∈ pool.names, ',' ∉ name.toList) :
    ∃ known : String, Text.pieces ',' known.toList = pool.names.map String.toList ∧
      (∀ coordinator leaving : Target,
        (∀ node, pool.FirstAt leaving.address node → pool.nodes.length ≠ 1 →
          Posted options p (.leave coordinator leaving) [rebalancePost known node.otpNode] ∧
          node.otpNode ∈ pool.names ∧ ∃ other ∈ pool.names, other ≠ node.otpNode) ∧
        ((∀ node ∈ pool.nodes, node.hostname ≠ leaving.address.text) ∨ pool.nodes.length = 1 →
          Posted options p (.leave coordinator leaving) [])) ∧
      (∀ coordinator, Posted options p (.rebalance coordinator) [rebalancePost known ""]) ∧
      ∀ failed sponsor : Target,
        (∀ node, pool.FirstAt failed.address node →
          Posted options p (.recover failed sponsor)
            [("/controller/failOver", [("otpNode", node.otpNode)]),
              ("/controller/setRecoveryType", [("otpNode", node.otpNode), ("recoveryType", "full")]),
              rebalancePost known ""] ∧
          ∀ other ∈ pool.nodes, other.otpNode = node.otpNode → other = node) ∧
        ((∀ node ∈ pool.nodes, node.hostname ≠ failed.address.text) → Posted options p (.recover failed sponsor) []) := by
  have hposted (c : Call) : Posted options p c (postsOf (steps options pool c)) := by
    have h := posted_steps options p c
    rwa [hserved.pool_eq] at h
  refine ⟨String.intercalate "," pool.names, pieces_known hne hcomma, fun coordinator leaving => ⟨?_, fun hno => ?_⟩,
    fun coordinator => hposted (.rebalance coordinator), fun failed sponsor => ⟨fun node hat => ⟨?_, ?_⟩, fun hno => ?_⟩⟩
  · intro node hat hlen
    have hmem : node.otpNode ∈ pool.names := List.mem_map_of_mem hat.mem
    refine ⟨?_, hmem, exists_other_name hnames hlen hmem⟩
    have h := hposted (.leave coordinator leaving)
    rwa [steps, hat.find?] at h
  · refine hserved.posted_nil (c := .leave coordinator leaving) rfl ?_
    rcases hno with hno | hlen
    · rw [Pool.find?_eq_none hno]; rfl
    · rw [hlen]; exact Bool.and_false _
  · have h := hposted (.recover failed sponsor)
    rwa [steps, hat.find?] at h
  · exact fun other hother hname => List.inj_on_of_nodup_map hnames hother hat.mem hname
  · refine hserved.posted_nil (c := .recover failed sponsor) rfl ?_
    rw [Pool.find?_eq_none hno]; rfl

/-- A pool of three, two of them at one address. -/
def crowdedPool : Pool := ⟨[⟨"[::1]:1", "a"⟩, ⟨"[::1]:2", "b"⟩, ⟨"[::1]:2", "c"⟩]⟩

/-- A peer that serves the crowded pool and lets the rebalance begin. -/
def crowdedPeer : Peer where
  script :=
    let node (n : PoolNode) : String :=
      "\x7b\"hostname\":\"" ++ n.hostname ++ "\",\"otpNode\":\"" ++ n.otpNode ++ "\"\x7d"
    let body : String := "\x7b\"nodes\":[" ++ String.intercalate "," (crowdedPool.nodes.map node) ++ "]\x7d"
    [.respond ⟨200, .whole (Text.octets body)⟩, .respond ⟨200, .whole []⟩]

/-- The first of the two nodes is ejected. -/
theorem pool_nodes_named_crowded :
    let target (port : UInt16) : Target := ⟨⟨"n"⟩, ⟨"[::1]", port⟩, ⟨"u", "p"⟩⟩
    let leave : Call := .leave (target 1) (target 2)
    (∃ known, Text.pieces ',' known.toList = [['a'], ['b'], ['c']] ∧
      Posted {} crowdedPeer leave [rebalancePost known "b"]) ∧
    (perform {} crowdedPeer leave).1.seen.map (·.body) = ["", "knownNodes=a%2Cb%2Cc&ejectedNodes=b"] := by
  intro target leave
  have hserved : crowdedPeer.Serves crowdedPool := ⟨_, rfl, by decide +kernel⟩
  obtain ⟨known, hknown, hleave, -⟩ :=
    pool_nodes_named {} hserved (by decide) (by decide +kernel) (by decide +kernel)
  have hfirst : crowdedPool.FirstAt ⟨"[::1]", 2⟩ ⟨"[::1]:2", "b"⟩ :=
    ⟨[⟨"[::1]:1", "a"⟩], [⟨"[::1]:2", "c"⟩], rfl, by decide +kernel, by decide +kernel⟩
  refine ⟨⟨known, hknown.trans (by decide +kernel), ?_⟩, by decide +kernel⟩
  exact ((hleave (target 1) (target 2)).1 _ hfirst (by decide)).1

end ClusterMembership.Rest
