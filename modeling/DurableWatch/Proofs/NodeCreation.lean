import DurableWatch.Proofs.Ancestry
import DurableWatch.Proofs.ServiceHistory

/-!
# Creations that take several requests

A creation that also makes what is missing above its node asks the service many times, and still
never fails half-way. A node that is there has all its ancestors, each of which outlives sessions,
so whether everything can be made is settled by the deepest ancestor that is there, before the first
node is made.
-/
namespace DurableWatch

namespace MemoryService

variable {s s' : MemoryService} {t : Table Node} {p q r : Path} {node : Node}

/-! ### What a creation needs -/

/-- There is a node that outlives sessions. -/
def Lasts (t : Table Node) (q : Path) : Prop := ∃ n, t.get? q = some n ∧ n.mode = .persistent

/-- The deepest node above `p` that is there outlives sessions. -/
def Supported (t : Table Node) (p : Path) : Prop :=
  ∃ a, a.IsAncestor p ∧ Lasts t a ∧
    ∀ b : Path, b.IsAncestor p → t.contains b = true → b = a ∨ b.IsAncestor a

/-- The node outlives sessions, or will if it is made with whatever is missing above it. -/
def Firm (t : Table Node) (q : Path) : Prop :=
  Lasts t q ∨ t.contains q = false ∧ Supported t q

theorem Lasts.contains (lasts : Lasts t q) : t.contains q = true := by
  obtain ⟨n, found, -⟩ := lasts
  exact Table.contains_of_get? found

theorem Lasts.of_get? {t' : Table Node} (lasts : Lasts t q) (same : t'.get? q = t.get? q) :
    Lasts t' q := by
  rwa [Lasts, same]

theorem supported_iff (parent : p.parent? = some r) : Supported t p ↔ Firm t r := by
  constructor
  · rintro ⟨a, above, lasts, deepest⟩
    rcases (Path.isAncestor_of_parent? parent).1 above with rfl | above
    · exact .inl lasts
    · -- the parent is below the deepest node that is there, so it is missing
      refine .inr ⟨?_, a, above, lasts, fun b hb => deepest b ?_⟩
      · by_contra there
        have shorter := above.length_lt
        rcases deepest r ((Path.isAncestor_of_parent? parent).2 (.inl rfl))
          (Bool.eq_true_of_not_eq_false there) with rfl | beyond
        · omega
        · have := beyond.length_lt
          omega
      · exact (Path.isAncestor_of_parent? parent).2 (.inr hb)
  · rintro (lasts | ⟨missing, a, above, lasts, deepest⟩)
    · exact ⟨r, (Path.isAncestor_of_parent? parent).2 (.inl rfl), lasts,
        fun b hb _ => (Path.isAncestor_of_parent? parent).1 hb⟩
    · refine ⟨a, (Path.isAncestor_of_parent? parent).2 (.inr above), lasts, fun b hb there => ?_⟩
      rcases (Path.isAncestor_of_parent? parent).1 hb with rfl | hb
      · rw [missing] at there
        cases there
      · exact deepest b hb there

/-- The session is alive, on a tree as it should be. -/
structure Live (s : MemoryService) : Prop where
  sane : s.Sane
  grounded : Grounded s.nodes
  alive : s.alive = true

theorem Live.lasts_parent (live : s.Live) (there : s.nodes.contains p = true)
    (parent : p.parent? = some r) : Lasts s.nodes r := live.sane.rooted p r there parent

theorem creationSite_eq (valid : p.defect? = none) (absent : s.nodes.contains p = false)
    (parent : p.parent? = some r) (lasts : Lasts s.nodes r) : s.creationSite p = .ok r := by
  obtain ⟨⟨data, mode, owner⟩, found, rfl⟩ := lasts
  simp [creationSite, Path.validate, valid, absent, parent, found]

theorem creationSite_refused (valid : p.defect? = none) (absent : s.nodes.contains p = false)
    (parent : p.parent? = some r) (unfit : ¬Lasts s.nodes r) :
    ∃ e, s.creationSite p = .error e ∧ e.isNodeExists = false := by
  cases found : s.nodes.get? r with
  | none =>
    refine ⟨.pathNotFound r, ?_, rfl⟩
    simp [creationSite, Path.validate, valid, absent, parent, found]
  | some n =>
    obtain ⟨data, _ | _, owner⟩ := n
    · exact absurd ⟨_, found, rfl⟩ unfit
    · refine ⟨.invalidArgument ("ephemeral node " ++ r ++ " cannot have children"), ?_, rfl⟩
      simp [creationSite, Path.validate, valid, absent, parent, found]

/-- The tree after a creation of `p`: the node, whatever was missing above it, and the rest. -/
structure Built (s : MemoryService) (p : Path) (node : Node) (t : Table Node) : Prop where
  leaf : t.get? p = some node
  above : ∀ a : Path, a.IsAncestor p → s.nodes.contains a = false →
    t.get? a = some ⟨.empty, .persistent, s.sessionId⟩
  rest : ∀ q : Path, q ≠ p → (q.IsAncestor p → s.nodes.contains q = true) →
    t.get? q = s.nodes.get? q

/-- `q` and whatever was missing above it is there. -/
structure Raised (s s' : MemoryService) (q : Path) : Prop where
  live : s'.Live
  sessionId : s'.sessionId = s.sessionId
  idle : s.nodes.contains q = true → s' = s
  above : ∀ a : Path, a = q ∨ a.IsAncestor q → s.nodes.contains a = false →
    s'.nodes.get? a = some ⟨.empty, .persistent, s.sessionId⟩
  rest : ∀ x : Path, (x = q ∨ x.IsAncestor q → s.nodes.contains x = true) →
    s'.nodes.get? x = s.nodes.get? x

theorem Raised.lasts (raised : Raised s s' q) (firm : Firm s.nodes q) : Lasts s'.nodes q := by
  rcases firm with lasts | ⟨missing, -⟩
  · exact lasts.of_get? (raised.rest q fun _ => lasts.contains)
  · exact ⟨_, raised.above q (.inl rfl) missing, rfl⟩

theorem Raised.below (raised : Raised s s' r) (parent : p.parent? = some r) :
    s'.nodes.get? p = s.nodes.get? p := by
  refine raised.rest p fun onTop => ?_
  have shorter := Path.length_parent?_lt parent
  rcases onTop with rfl | above
  · omega
  · have := above.length_lt
    omega

theorem Live.contains_ancestor (live : s.Live) (there : s.nodes.contains p = true) {a : Path}
    (above : a.IsAncestor p) : s.nodes.contains a = true := by
  induction above with
  | single parent => exact (live.lasts_parent there parent).contains
  | tail _ parent ih => exact (live.lasts_parent ih parent).contains

theorem Live.raised (live : s.Live) (there : s.nodes.contains q = true) : Raised s s q where
  live := live
  sessionId := rfl
  idle _ := rfl
  above a onTop missing := by
    have still : s.nodes.contains a = true := by
      rcases onTop with rfl | above
      · exact there
      · exact live.contains_ancestor there above
    rw [still] at missing
    cases missing
  rest _ _ := rfl

/-- The node itself is made below its parent. -/
theorem Raised.built (raised : Raised s s' r) (parent : p.parent? = some r) :
    s.Built p node (s'.nodes.insert p node) := by
  have other (a : Path) (above : a.IsAncestor p) : a ≠ p := by
    rintro rfl
    exact lt_irrefl _ above.length_lt
  refine ⟨by simp, fun a above missing => ?_, fun q away there => ?_⟩
  · rw [Table.get?_insert, if_neg (other a above)]
    exact raised.above a ((Path.isAncestor_of_parent? parent).1 above) missing
  · rw [Table.get?_insert, if_neg away]
    exact raised.rest q fun onTop => there ((Path.isAncestor_of_parent? parent).2 onTop)

/-- It is the same to the new tree whether a node was there before. -/
theorem Built.of_erased (built : s'.Built p node t) (sessionId : s'.sessionId = s.sessionId)
    (nodes : s'.nodes = s.nodes.erase p) : s.Built p node t := by
  have away (q : Path) (other : q ≠ p) : s'.nodes.get? q = s.nodes.get? q := by
    rw [nodes, Table.get?_erase, if_neg other]
  refine ⟨built.leaf, fun a above missing => ?_, fun q other there => ?_⟩
  · have other : a ≠ p := by
      rintro rfl
      exact lt_irrefl _ above.length_lt
    rw [← sessionId]
    refine built.above a above ?_
    rwa [Table.contains, away a other]
  · rw [← away q other]
    refine built.rest q other fun above => ?_
    rw [Table.contains, away q other]
    exact there above

theorem Raised.further {s'' : MemoryService} (raised : Raised s s' r)
    (parent : p.parent? = some r) (absent : s.nodes.contains p = false) (live : s''.Live)
    (sessionId : s''.sessionId = s'.sessionId)
    (nodes : s''.nodes = s'.nodes.insert p ⟨.empty, .persistent, s'.sessionId⟩) :
    Raised s s'' p := by
  have built : s.Built p ⟨.empty, .persistent, s.sessionId⟩ s''.nodes := by
    rw [nodes, raised.sessionId]
    exact raised.built parent
  rw [raised.sessionId] at sessionId
  refine ⟨live, sessionId, fun there => ?_, fun a onTop missing => ?_, fun x there => ?_⟩
  · rw [absent] at there
    cases there
  · rcases onTop with rfl | above
    · exact built.leaf
    · exact built.above a above missing
  · refine built.rest x ?_ fun above => there (.inr above)
    rintro rfl
    rw [there (.inl rfl)] at absent
    cases absent

/-! ### One request -/

theorem serve_create (live : s.Live) (valid : p.defect? = none)
    (absent : s.nodes.contains p = false) (parent : p.parent? = some r) (lasts : Lasts s.nodes r)
    (d : Data) (mode : CreateMode) :
    ∃ s', s.serve (.create p d mode) = (.ok p, s') ∧ s'.Live ∧ s'.sessionId = s.sessionId ∧
      s'.nodes = s.nodes.insert p ⟨d, mode, s.sessionId⟩ := by
  have fired := fired_fire { s with nodes := s.nodes.insert p ⟨d, mode, s.sessionId⟩ } r .children
  have served : s.serve (.create p d mode) =
      (.ok p, fire { s with nodes := s.nodes.insert p ⟨d, mode, s.sessionId⟩ } r .children) := by
    simp only [serve, createNode, creationSite_eq valid absent parent lasts]
  have sane := sane_ask live.sane (.create p d mode)
  have grounded := grounded_serve live.grounded (.create p d mode)
  rw [ask_of_alive live.alive Request.noConfusion, served] at sane
  rw [served] at grounded
  exact ⟨_, served, ⟨sane, grounded, fired.alive.trans live.alive⟩,
    congrArg Prod.fst fired.session, fired.nodes⟩

theorem serve_delete (live : s.Live) (there : s.nodes.contains p = true) (below : p ≠ Path.root)
    (bare : s.childNames p = []) :
    ∃ s', s.serve (.delete p) = (.ok (), s') ∧ s'.Live ∧ s'.sessionId = s.sessionId ∧
      s'.nodes = s.nodes.erase p := by
  obtain ⟨s', served, fired⟩ : ∃ s', s.serve (.delete p) = (.ok (), s') ∧
      Fired { s with nodes := s.nodes.erase p } s' := by
    have fired := (fired_fire { s with nodes := s.nodes.erase p } p .data).trans
      (fired_fire _ p .children)
    simp only [serve, deleteNode, below, there, bare, if_false, Bool.not_true, List.isEmpty_nil,
      Bool.false_eq_true]
    split
    · exact ⟨_, rfl, fired.trans (fired_fire _ _ .children)⟩
    · exact ⟨_, rfl, fired⟩
  have sane := sane_ask live.sane (.delete p)
  have grounded := grounded_serve live.grounded (.delete p)
  rw [ask_of_alive live.alive Request.noConfusion, served] at sane
  rw [served] at grounded
  exact ⟨s', served, ⟨sane, grounded, fired.alive.trans live.alive⟩,
    congrArg Prod.fst fired.session, fired.nodes⟩

theorem serve_delete_refused (there : s.nodes.contains p = true)
    (stuck : ¬(p ≠ Path.root ∧ s.childNames p = [])) :
    ∃ e, s.serve (.delete p) = (.error e, s) ∧ e.isNotFound = false := by
  by_cases below : p = Path.root
  · exact ⟨.invalidArgument "cannot delete the root node", by simp [serve, deleteNode, below], rfl⟩
  · have full : s.childNames p ≠ [] := fun bare => stuck ⟨below, bare⟩
    exact ⟨.invalidArgument ("node " ++ p ++ " has children"),
      by simp [serve, deleteNode, below, there, full], rfl⟩

theorem serve_create_refused (valid : p.defect? = none) (absent : s.nodes.contains p = false)
    (parent : p.parent? = some r) (unfit : ¬Lasts s.nodes r) (d : Data) (mode : CreateMode) :
    ∃ e, s.serve (.create p d mode) = (.error e, s) ∧ e.isNodeExists = false := by
  obtain ⟨e, site, other⟩ := creationSite_refused valid absent parent unfit
  exact ⟨e, by simp only [serve, createNode, site], other⟩

end MemoryService

namespace World

open MemoryService

variable {τ : Type} (audience : Audience (Backstage τ)) {w : World (Backstage τ)} {p q r : Path}

theorem ask_create (live : w.outside.service.Live) (valid : p.defect? = none)
    (absent : w.outside.service.nodes.contains p = false) (parent : p.parent? = some r)
    (lasts : Lasts w.outside.service.nodes r) (d : Data) (mode : CreateMode) :
    ∃ w', (memoryClient.facing audience).ask (.create p d mode) w = (.ok p, w') ∧
      w'.outside.service.Live ∧ w'.outside.service.sessionId = w.outside.service.sessionId ∧
      w'.outside.service.nodes =
        w.outside.service.nodes.insert p ⟨d, mode, w.outside.service.sessionId⟩ := by
  obtain ⟨s', served, after⟩ := serve_create live valid absent parent lasts d mode
  refine ⟨w.noting s' (.create p d mode) true, ?_, after⟩
  rw [ask_alive audience w live.alive Request.noConfusion, served]
  rfl

theorem ask_create_refused (live : w.outside.service.Live) (valid : p.defect? = none)
    (absent : w.outside.service.nodes.contains p = false) (parent : p.parent? = some r)
    (unfit : ¬Lasts w.outside.service.nodes r) (d : Data) (mode : CreateMode) :
    ∃ e w', (memoryClient.facing audience).ask (.create p d mode) w = (.error (.failed e), w') ∧
      e.isNodeExists = false ∧ w'.outside.service = w.outside.service := by
  obtain ⟨e, served, other⟩ := serve_create_refused valid absent parent unfit d mode
  refine ⟨e, w.noting w.outside.service (.create p d mode) false, ?_, other, rfl⟩
  rw [ask_alive audience w live.alive Request.noConfusion, served]
  rfl

/-! ### What is missing above -/

theorem createMissing_append {σ : Type} (host : Host σ) (as bs : List Path) (w : World σ) :
    createMissing host (as ++ bs) w =
      match createMissing host as w with
      | (.error stop, w) => (.error stop, w)
      | (.ok (), w) => createMissing host bs w := by
  induction as generalizing w with
  | nil => rfl
  | cons a as ih =>
    simp only [List.cons_append, createMissing]
    split
    · rfl
    · exact ih _
    · split
      · exact ih _
      · split
        · exact ih _
        · rfl

theorem createMissing_there (alive : w.outside.service.alive = true)
    (there : w.outside.service.nodes.contains p = true) :
    ∃ w', createMissing (memoryClient.facing audience) [p] w = (.ok (), w') ∧
      w'.outside.service = w.outside.service := by
  refine ⟨w.noting w.outside.service (.existence p) true, ?_, rfl⟩
  simp only [createMissing, ask_existence audience w p alive, there]

theorem createMissing_absent (live : w.outside.service.Live) (valid : p.defect? = none)
    (absent : w.outside.service.nodes.contains p = false) (parent : p.parent? = some r)
    (lasts : Lasts w.outside.service.nodes r) :
    ∃ w', createMissing (memoryClient.facing audience) [p] w = (.ok (), w') ∧
      w'.outside.service.Live ∧ w'.outside.service.sessionId = w.outside.service.sessionId ∧
      w'.outside.service.nodes =
        w.outside.service.nodes.insert p ⟨.empty, .persistent, w.outside.service.sessionId⟩ := by
  obtain ⟨w', asked, after⟩ := ask_create audience
    (w := w.noting w.outside.service (.existence p) true) live valid absent parent lasts .empty
    .persistent
  refine ⟨w', ?_, after⟩
  simp only [createMissing, ask_existence audience w p live.alive, absent, asked]

theorem createMissing_refused (live : w.outside.service.Live) (valid : p.defect? = none)
    (absent : w.outside.service.nodes.contains p = false) (parent : p.parent? = some r)
    (unfit : ¬Lasts w.outside.service.nodes r) :
    ∃ e w', createMissing (memoryClient.facing audience) [p] w = (.error (.failed e), w') ∧
      w'.outside.service = w.outside.service := by
  obtain ⟨e, w', asked, other, same⟩ := ask_create_refused audience
    (w := w.noting w.outside.service (.existence p) true) live valid absent parent unfit .empty
    .persistent
  refine ⟨e, w', ?_, same⟩
  simp [createMissing, ask_existence audience w p live.alive, absent, asked, Stop.isNodeExists,
    other]

/-- A firm path and what is missing above it is made; else nothing is, and if no failure has told
so yet, then because the path is there, as a node that nothing can be made below. -/
theorem createMissing_lineage (q : Path) (valid : q.defect? = none) {w : World (Backstage τ)}
    (live : w.outside.service.Live) :
    ∃ w', Firm w.outside.service.nodes q ∧
        createMissing (memoryClient.facing audience) q.lineage w = (.ok (), w') ∧
        Raised w.outside.service w'.outside.service q ∨
      ¬Firm w.outside.service.nodes q ∧ w'.outside.service = w.outside.service ∧
        ((∃ e, createMissing (memoryClient.facing audience) q.lineage w =
            (.error (.failed e), w')) ∨
          createMissing (memoryClient.facing audience) q.lineage w = (.ok (), w')) := by
  induction q, valid using Path.induction_on_parent with
  | top => exact ⟨w, .inl ⟨.inl live.grounded, rfl, live.raised (Lasts.contains live.grounded)⟩⟩
  | below p r valid parent _ ih =>
    have split : p.lineage = r.lineage ++ [p] := by
      have notRoot : p ≠ Path.root := by
        rintro rfl
        cases parent
      rw [Path.lineage, if_neg notRoot, Path.ancestors_of_parent? valid parent]
    rw [split, createMissing_append]
    obtain ⟨w₁, ⟨firm, made, raised⟩ | ⟨unfit, same, answer⟩⟩ := ih
    · rw [made]
      dsimp only
      cases there : w.outside.service.nodes.contains p with
      | true =>
        have idle := raised.idle (live.lasts_parent there parent).contains
        obtain ⟨w₂, found, still⟩ := createMissing_there audience (p := p) raised.live.alive
          (by rwa [idle])
        rw [idle] at still
        rw [found]
        refine ⟨w₂, ?_⟩
        by_cases lasts : Lasts w.outside.service.nodes p
        · refine .inl ⟨.inl lasts, rfl, ?_⟩
          rw [still]
          exact live.raised there
        · refine .inr ⟨?_, still, .inr rfl⟩
          rintro (was | ⟨missing, -⟩)
          · exact lasts was
          · rw [there] at missing
            cases missing
      | false =>
        have absent : w₁.outside.service.nodes.contains p = false := by
          rw [Table.contains, raised.below parent]
          exact there
        obtain ⟨w₂, created, live₂, sessionId, nodes⟩ := createMissing_absent audience raised.live
          valid absent parent (raised.lasts firm)
        rw [created]
        exact ⟨w₂, .inl ⟨.inr ⟨there, (supported_iff parent).2 firm⟩, rfl,
          raised.further parent there live₂ sessionId nodes⟩⟩
    · have there : w.outside.service.nodes.contains p = false := by
        by_contra there
        exact unfit (.inl (live.lasts_parent (Bool.eq_true_of_not_eq_false there) parent))
      have unfirm : ¬Firm w.outside.service.nodes p := by
        rintro (lasts | ⟨-, supported⟩)
        · rw [lasts.contains] at there
          cases there
        · exact unfit ((supported_iff parent).1 supported)
      rcases answer with ⟨e, stopped⟩ | passed
      · rw [stopped]
        exact ⟨w₁, .inr ⟨unfirm, same, .inl ⟨e, rfl⟩⟩⟩
      · rw [passed]
        dsimp only
        obtain ⟨e, w₂, refused, still⟩ := createMissing_refused audience (w := w₁) (by rwa [same])
          valid (by rwa [same]) parent (by rw [same]; exact fun lasts => unfit (.inl lasts))
        rw [refused]
        exact ⟨w₂, .inr ⟨unfirm, still.trans same, .inl ⟨e, rfl⟩⟩⟩

/-- The node is made, and before it what is missing above. -/
def createUnder {σ : Type} (host : Host σ) (p : Path) (d : Data) (mode : CreateMode)
    (w : World σ) : Except Stop Path × World σ :=
  match createMissing host p.ancestors w with
  | (.error stop, w) => (.error stop, w)
  | (.ok (), w) => host.ask (.create p d mode) w

theorem createUnder_memory (live : w.outside.service.Live) (valid : p.defect? = none)
    (absent : w.outside.service.nodes.contains p = false) (d : Data) (mode : CreateMode) :
    ∃ w', Supported w.outside.service.nodes p ∧
        createUnder (memoryClient.facing audience) p d mode w = (.ok p, w') ∧
        w.outside.service.Built p ⟨d, mode, w.outside.service.sessionId⟩
          w'.outside.service.nodes ∨
      ¬Supported w.outside.service.nodes p ∧
        (∃ e, createUnder (memoryClient.facing audience) p d mode w = (.error (.failed e), w')) ∧
        w'.outside.service = w.outside.service := by
  obtain ⟨r, parent⟩ : ∃ r, p.parent? = some r := by
    refine Path.exists_parent valid ?_
    rintro rfl
    rw [Lasts.contains live.grounded] at absent
    cases absent
  rw [createUnder, Path.ancestors_of_parent? valid parent, supported_iff parent]
  obtain ⟨w₁, ⟨firm, made, raised⟩ | ⟨unfit, same, answer⟩⟩ :=
    createMissing_lineage audience r (Path.parent?_step valid parent).1 live
  · have missing : w₁.outside.service.nodes.contains p = false := by
      rw [Table.contains, raised.below parent]
      exact absent
    obtain ⟨w₂, created, -, -, nodes⟩ := ask_create audience raised.live valid missing parent
      (raised.lasts firm) d mode
    rw [made]
    refine ⟨w₂, .inl ⟨firm, created, ?_⟩⟩
    rw [nodes, raised.sessionId]
    exact raised.built parent
  · rcases answer with ⟨e, stopped⟩ | passed
    · rw [stopped]
      exact ⟨w₁, .inr ⟨unfit, ⟨e, rfl⟩, same⟩⟩
    · obtain ⟨e, w₂, refused, -, still⟩ := ask_create_refused audience (w := w₁) (by rwa [same])
        valid (by rwa [same]) parent (by rw [same]; exact fun lasts => unfit (.inl lasts)) d mode
      rw [passed]
      exact ⟨w₂, .inr ⟨unfit, ⟨e, refused⟩, still.trans same⟩⟩

/-! ### The creations of a session -/

/-- The creation does all that it is for, just when it can; else it fails and does nothing. -/
structure AllOrNothing (s : MemoryService) (p : Path) (node : Node) (can : Prop)
    (done : Except Stop Path × World (Backstage τ)) : Prop where
  succeeds : (∃ q, done.1 = .ok q) ↔ can
  built : ∀ q, done.1 = .ok q → q = p ∧ s.Built p node done.2.outside.service.nodes
  refused : ∀ stop, done.1 = .error stop →
    (∃ e, stop = .failed e) ∧ done.2.outside.service = s

namespace AllOrNothing

variable {s : MemoryService} {node : Node} {can : Prop} {w' : World (Backstage τ)}

theorem of_ok (able : can) (built : s.Built p node w'.outside.service.nodes) :
    AllOrNothing s p node can (.ok p, w') where
  succeeds := ⟨fun _ => able, fun _ => ⟨p, rfl⟩⟩
  built q answer := ⟨(Except.ok.inj answer).symm, built⟩
  refused _ answer := by cases answer

theorem of_error {e : Error} (unable : ¬can) (same : w'.outside.service = s) :
    AllOrNothing s p node can (.error (.failed e), w') where
  succeeds := by simp [unable]
  built q answer := by cases answer
  refused stop answer := ⟨⟨e, (Except.error.inj answer).symm⟩, same⟩

end AllOrNothing

theorem ensureReady_cases (w : World (Backstage τ)) (p : Path) :
    w.outside.service.alive = true ∧ p.validate = .ok () ∧
        ensureReady (memoryClient.facing audience) p w = (.ok (), w) ∨
      ¬(w.outside.service.alive = true ∧ p.validate = .ok ()) ∧
        ∃ e, ensureReady (memoryClient.facing audience) p w = (.error (.failed e), w) := by
  cases alive : w.outside.service.alive with
  | false => simp [ensureReady, ensureAlive, Host.facing, memoryClient, alive, fail]
  | true =>
    cases valid : p.validate <;>
      simp [ensureReady, ensureAlive, Host.facing, memoryClient, alive, valid, Except.mapError]

theorem createRecursive_memory (sane : w.outside.service.Sane)
    (grounded : Grounded w.outside.service.nodes) (p : Path) (mode : CreateMode) :
    AllOrNothing w.outside.service p ⟨.empty, mode, w.outside.service.sessionId⟩
      (w.outside.service.alive = true ∧ p.validate = .ok () ∧
        w.outside.service.nodes.contains p = false ∧ Supported w.outside.service.nodes p)
      (createRecursive (memoryClient.facing audience) p mode w) := by
  unfold createRecursive
  rcases ensureReady_cases audience w p with ⟨alive, valid, ready⟩ | ⟨unready, e, stopped⟩
  · rw [ready]
    dsimp only
    rw [ask_existence audience w p alive]
    cases there : w.outside.service.nodes.contains p with
    | true => exact .of_error (by simp) rfl
    | false =>
      change AllOrNothing _ _ _ _ (createUnder (memoryClient.facing audience) p .empty mode
        (w.noting w.outside.service (.existence p) true))
      obtain ⟨w', ⟨supported, made, built⟩ | ⟨unsupported, ⟨e, refused⟩, same⟩⟩ :=
        createUnder_memory audience (w := w.noting w.outside.service (.existence p) true)
          ⟨sane, grounded, alive⟩ (Path.validate_eq_ok.1 valid) there .empty mode
      · rw [made]
        exact .of_ok ⟨alive, valid, rfl, supported⟩ built
      · rw [refused]
        exact .of_error (fun able => unsupported able.2.2.2) same
  · rw [stopped]
    exact .of_error (fun able => unready ⟨able.1, able.2.1⟩) rfl

/-- What is at `p` can be taken away, or nothing is there. -/
theorem clearAway_memory (live : w.outside.service.Live) (p : Path) :
    (w.outside.service.nodes.contains p = false ∧
      ∃ w', clearAway (memoryClient.facing audience) p w = (.ok (), w') ∧
        w'.outside.service = w.outside.service) ∨
    (w.outside.service.nodes.contains p = true ∧
      (p ≠ Path.root ∧ w.outside.service.childNames p = []) ∧
      ∃ w', clearAway (memoryClient.facing audience) p w = (.ok (), w') ∧
        w'.outside.service.Live ∧ w'.outside.service.sessionId = w.outside.service.sessionId ∧
        w'.outside.service.nodes = w.outside.service.nodes.erase p) ∨
    (w.outside.service.nodes.contains p = true ∧
      ¬(p ≠ Path.root ∧ w.outside.service.childNames p = []) ∧
      ∃ e w', clearAway (memoryClient.facing audience) p w = (.error (.failed e), w') ∧
        w'.outside.service = w.outside.service) := by
  have looked := ask_existence audience w p live.alive
  unfold clearAway
  rw [looked]
  cases there : w.outside.service.nodes.contains p with
  | false => exact .inl ⟨rfl, _, rfl, rfl⟩
  | true =>
    dsimp only
    rw [ask_alive audience (w.noting w.outside.service (.existence p) true) live.alive
      Request.noConfusion]
    by_cases removable : p ≠ Path.root ∧ w.outside.service.childNames p = []
    · obtain ⟨s', served, after⟩ := serve_delete live there removable.1 removable.2
      refine .inr (.inl ⟨rfl, removable, ?_⟩)
      simp only [noting, served]
      exact ⟨_, rfl, after⟩
    · obtain ⟨e, served, other⟩ := serve_delete_refused there removable
      refine .inr (.inr ⟨rfl, removable, e, ?_⟩)
      simp [noting, served, Except.mapError, Stop.isNotFound, other]

theorem markCreated_ok {σ : Type} (w : World σ) (valid : p.defect? = none) {d : Data}
    (some : d.isEmpty = false) :
    markCreated p d w =
      (.ok p, w.update fun c => { c with stubborn := c.stubborn.insert p d }) := by
  have named : p ≠ "" := by
    rintro rfl
    cases valid
  simp [markCreated, Coordinator.markStubborn, named, some, update]

theorem createStubborn_eq {σ : Type} (host : Host σ) (p : Path) {d : Data}
    (some : d.isEmpty = false) (w : World σ) :
    createStubborn host p d w =
      match ensureReady host p w with
      | (.error stop, w) => (.error stop, w)
      | (.ok (), w) =>
        match clearAway host p w with
        | (.error stop, w) => (.error stop, w)
        | (.ok (), w) =>
          match createUnder host p d .ephemeral w with
          | (.error stop, w) => (.error stop, w)
          | (.ok created, w) => markCreated created d w := by
  unfold createStubborn createUnder
  simp only [some, Bool.false_eq_true, if_false]
  rcases ensureReady host p w with ⟨_ | _, w₁⟩
  · rfl
  · dsimp only
    rcases clearAway host p w₁ with ⟨_ | _, w₂⟩
    · rfl
    · dsimp only
      rcases createMissing host p.ancestors w₂ with ⟨_ | _, w₃⟩
      · rfl
      · dsimp only
        rcases host.ask (.create p d .ephemeral) w₃ with ⟨_ | _, w₄⟩ <;> rfl

theorem createStubborn_memory (sane : w.outside.service.Sane)
    (grounded : Grounded w.outside.service.nodes) (p : Path) {d : Data}
    (some : d.isEmpty = false) :
    AllOrNothing w.outside.service p ⟨d, .ephemeral, w.outside.service.sessionId⟩
      (w.outside.service.alive = true ∧ p.validate = .ok () ∧
        (w.outside.service.nodes.contains p = true ∧ p ≠ Path.root ∧
            w.outside.service.childNames p = [] ∨
          w.outside.service.nodes.contains p = false ∧ Supported w.outside.service.nodes p))
      (createStubborn (memoryClient.facing audience) p d w) := by
  rw [createStubborn_eq _ p some]
  rcases ensureReady_cases audience w p with ⟨alive, valid, ready⟩ | ⟨unready, e, stopped⟩
  · have path := Path.validate_eq_ok.1 valid
    have live : w.outside.service.Live := ⟨sane, grounded, alive⟩
    rw [ready]
    rcases clearAway_memory audience live p with ⟨absent, w₁, cleared, same⟩ |
      ⟨there, removable, w₁, cleared, live₁, sessionId, nodes⟩ |
      ⟨there, stuck, e, w₁, stopped, same⟩
    · simp only [cleared]
      obtain ⟨w₂, ⟨supported, made, built⟩ | ⟨unsupported, ⟨e, refused⟩, still⟩⟩ :=
        createUnder_memory audience (w := w₁) (by rwa [same]) path (by rwa [same]) d .ephemeral
      · rw [same] at supported built
        simp only [made, markCreated_ok w₂ path some]
        exact .of_ok ⟨alive, valid, .inr ⟨absent, supported⟩⟩ built
      · rw [same] at unsupported
        simp only [refused]
        exact .of_error (by simp [absent, unsupported]) (still.trans same)
    · simp only [cleared]
      obtain ⟨r, parent⟩ := Path.exists_parent path removable.1
      have other : r ≠ p := by
        rintro rfl
        exact lt_irrefl _ (Path.length_parent?_lt parent)
      have supported : Supported w₁.outside.service.nodes p := by
        refine (supported_iff parent).2 (.inl ((live.lasts_parent there parent).of_get? ?_))
        rw [nodes, Table.get?_erase, if_neg other]
      obtain ⟨w₂, ⟨-, made, built⟩ | ⟨unsupported, -⟩⟩ :=
        createUnder_memory audience live₁ path (by simp [nodes]) d .ephemeral
      · simp only [made, markCreated_ok w₂ path some]
        rw [sessionId] at built
        exact .of_ok ⟨alive, valid, .inl ⟨there, removable⟩⟩ (built.of_erased sessionId nodes)
      · exact absurd supported unsupported
    · simp only [stopped]
      refine .of_error ?_ same
      rintro ⟨-, -, ⟨-, removable⟩ | ⟨absent, -⟩⟩
      · exact stuck removable
      · rw [there] at absent
        cases absent
  · rw [stopped]
    exact .of_error (fun able => unready ⟨able.1, able.2.1⟩) rfl

/-- Whatever has been done to the service, a creation makes its node and all that is missing above
it, or nothing; and which of the two is settled by what is there when it starts. -/
theorem creations_all_or_nothing {operations : List Operation}
    (reached : w.outside.service = .history operations) (p : Path) :
    (∀ mode, AllOrNothing w.outside.service p ⟨.empty, mode, w.outside.service.sessionId⟩
      (w.outside.service.alive = true ∧ p.validate = .ok () ∧
        w.outside.service.nodes.contains p = false ∧ Supported w.outside.service.nodes p)
      (createRecursive (memoryClient.facing audience) p mode w)) ∧
    ∀ d : Data, d.isEmpty = false →
      AllOrNothing w.outside.service p ⟨d, .ephemeral, w.outside.service.sessionId⟩
        (w.outside.service.alive = true ∧ p.validate = .ok () ∧
          (w.outside.service.nodes.contains p = true ∧ p ≠ Path.root ∧
              w.outside.service.childNames p = [] ∨
            w.outside.service.nodes.contains p = false ∧ Supported w.outside.service.nodes p))
        (createStubborn (memoryClient.facing audience) p d w) := by
  have parts : w.outside.service.Sane ∧ Grounded w.outside.service.nodes := by
    rw [reached]
    exact sane_history operations
  exact ⟨createRecursive_memory audience parts.1 parts.2 p,
    fun d some => createStubborn_memory audience parts.1 parts.2 p some⟩

/-- Below one node, both kinds of creation make the node between as well. -/
theorem creations_two_below :
    let w : World (Backstage Unit) :=
      ⟨.new (.ofSize 1) false, .history [.change (.create "/a" .empty)], [], ()⟩
    let made := createRecursive (memoryClient.facing .silent) "/a/b/c" .persistent w
    let stubborn := createStubborn (memoryClient.facing .silent) "/a/b/c" ⟨#[1]⟩ w
    made.2.outside.service.nodes.get? "/a/b" = some ⟨.empty, .persistent, 1⟩ ∧
      stubborn.2.outside.service.nodes.get? "/a/b/c" = some ⟨⟨#[1]⟩, .ephemeral, 1⟩ := by
  intro w made stubborn
  have supported : Supported w.outside.service.nodes "/a/b/c" := by
    refine (supported_iff (r := "/a/b") rfl).2 (.inr ⟨rfl, (supported_iff (r := "/a") rfl).2 ?_⟩)
    exact .inl ⟨_, rfl, rfl⟩
  obtain ⟨recursive, marked⟩ := creations_all_or_nothing .silent (w := w) rfl "/a/b/c"
  obtain ⟨q, answer⟩ := (recursive .persistent).succeeds.2 ⟨rfl, rfl, rfl, supported⟩
  obtain ⟨q', answer'⟩ := (marked ⟨#[1]⟩ (by decide)).succeeds.2
    ⟨rfl, rfl, .inr ⟨rfl, supported⟩⟩
  exact ⟨((recursive .persistent).built q answer).2.above "/a/b" (.single rfl) rfl,
    ((marked ⟨#[1]⟩ (by decide)).built q' answer').2.leaf⟩

end World

end DurableWatch
