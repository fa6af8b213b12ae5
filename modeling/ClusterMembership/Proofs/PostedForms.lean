import ClusterMembership.Proofs.NamedNodes
/-!
# The forms that calls post

What the peer reads out of the body of a post is what the call put into the form, name by name and value by value
(`forms_read_back`): no username, password, host or name of a node, whatever its characters, can add a field, drop one or
change another.  A call that reads the pool first posts nothing unless the peer serves a pool that lets it go on.
-/
namespace ClusterMembership.Rest

variable {p : Peer}

/-- **A call that reads the pool first posts nothing, or the peer serves a pool as wanted.** -/
theorem posted_nil_or_serves (options : Options) (p : Peer) (c : Call) {wanted : Pool → Bool} {rest : List Step}
    (hsteps : steps options p.pool c = .pool wanted :: rest) :
    Posted options p c [] ∨ ∃ pool, p.Serves pool ∧ wanted pool = true := by
  cases hs : Step.succeeds (lineOf options none c) (.pool wanted) (p.reaction 0) with
  | false =>
    have hn : progress (lineOf options none c) (steps options p.pool c) p.reaction < 1 := by
      rw [hsteps, progress_of_fails hs]
      exact Nat.one_pos
    have hposted := posted_take c hn
    rw [hsteps] at hposted
    exact .inl hposted
  | true =>
    obtain ⟨-, r, hr, haccepts⟩ := Step.succeeds_iff.1 hs
    obtain ⟨pool, hpool, hwanted⟩ := (Option.any_eq_true _ _).1 haccepts
    exact .inr ⟨pool, ⟨r, hr, hpool⟩, hwanted⟩

theorem Peer.Serves.posted_steps {pool : Pool} (h : p.Serves pool) (options : Options) (c : Call) :
    Posted options p c (postsOf (steps options pool c)) := by
  have hposted := Rest.posted_steps options p c
  rwa [h.pool_eq] at hposted

theorem Pool.firstAt_of_find? {pool : Pool} {a : Address} {node : PoolNode} (h : pool.find? a = some node) :
    pool.FirstAt a node := by
  obtain ⟨hat, before, after, hnodes, hbefore⟩ := List.find?_eq_some_iff_append.1 h
  exact ⟨before, after, hnodes, of_decide_eq_true hat, fun n hn => by simpa using hbefore n hn⟩

/-- **The fields of a form are read back as they were put in**, whatever their values.  The bodies that the peer sees posted,
read as forms, have the fields that the call gives and no others, under the same names, with the same values and in the same
order, up to where the call stops. -/
theorem forms_read_back (options : Options) (p : Peer) :
    (∀ node, Posted options p (.bootstrap node) [
      ("/pools/default", [("memoryQuota", Text.decimal options.memoryQuota)]),
      ("/settings/web", [("port", "SAME"), ("username", node.credentials.username),
        ("password", node.credentials.password)])]) ∧
    (∀ coordinator a c, Posted options p (.join coordinator a c)
      [("/controller/addNode", [("hostname", a.text), ("user", c.username), ("password", c.password)])]) ∧
    (∀ coordinator leaving, Posted options p (.leave coordinator leaving) [] ∨
      ∃ pool node, p.Serves pool ∧ pool.FirstAt leaving.address node ∧ Posted options p (.leave coordinator leaving)
        [("/controller/rebalance",
          [("knownNodes", String.intercalate "," pool.names), ("ejectedNodes", node.otpNode)])]) ∧
    (∀ coordinator, Posted options p (.commit coordinator) []) ∧
    (∀ coordinator, Posted options p (.rebalance coordinator) [] ∨
      ∃ pool, p.Serves pool ∧ Posted options p (.rebalance coordinator)
        [("/controller/rebalance", [("knownNodes", String.intercalate "," pool.names), ("ejectedNodes", "")])]) ∧
    ∀ failed sponsor, Posted options p (.recover failed sponsor) [] ∨
      ∃ pool node, p.Serves pool ∧ pool.FirstAt failed.address node ∧ Posted options p (.recover failed sponsor) [
        ("/controller/failOver", [("otpNode", node.otpNode)]),
        ("/controller/setRecoveryType", [("otpNode", node.otpNode), ("recoveryType", "full")]),
        ("/controller/rebalance", [("knownNodes", String.intercalate "," pool.names), ("ejectedNodes", "")])] := by
  refine ⟨fun node => posted_steps options p (.bootstrap node), fun t a c => posted_steps options p (.join t a c), ?_,
    fun t => posted_steps options p (.commit t), ?_, ?_⟩
  · intro t leaving
    rcases posted_nil_or_serves options p (.leave t leaving) rfl with h | ⟨pool, h, hwanted⟩
    · exact .inl h
    · obtain ⟨node, hfind⟩ := Option.isSome_iff_exists.1 (Bool.and_eq_true_iff.1 hwanted).1
      have hposted := h.posted_steps options (.leave t leaving)
      rw [steps, hfind] at hposted
      exact .inr ⟨pool, node, h, Pool.firstAt_of_find? hfind, hposted⟩
  · intro t
    rcases posted_nil_or_serves options p (.rebalance t) rfl with h | ⟨pool, h, -⟩
    · exact .inl h
    · exact .inr ⟨pool, h, h.posted_steps options (.rebalance t)⟩
  · intro failed sponsor
    rcases posted_nil_or_serves options p (.recover failed sponsor) rfl with h | ⟨pool, h, hwanted⟩
    · exact .inl h
    · obtain ⟨node, hfind⟩ := Option.isSome_iff_exists.1 hwanted
      have hposted := h.posted_steps options (.recover failed sponsor)
      rw [steps, hfind] at hposted
      exact .inr ⟨pool, node, h, Pool.firstAt_of_find? hfind, hposted⟩

/-- A password that would pass for two more fields. -/
example :
    let node : Target := ⟨⟨"n"⟩, ⟨"[::1]", 1⟩, ⟨"u", "p"⟩⟩
    let p : Peer := { script := [.respond ⟨200, .whole []⟩] }
    (perform {} p (.join node ⟨"h", 2⟩ ⟨"é +", "x&user=root%26"⟩)).1.seen.map (·.body) =
      ["hostname=h%3A2&user=%C3%A9+%2B&password=x%26user%3Droot%2526"] := by decide +kernel

end ClusterMembership.Rest
