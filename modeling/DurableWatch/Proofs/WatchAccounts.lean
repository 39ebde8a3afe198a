import DurableWatch.Proofs.MemoryHost
import DurableWatch.Proofs.ServiceIntegrity

/-!
# The accounts of one-shot watches

A watch is armed by a read and fires once. Every operation is booked for every watch: what it arms,
what it fires, what it takes away. Over a whole run the books balance, so no fire is lost and none
is sent twice; and as an armed watch fires at the first change of what it watches, and an unarmed
one never, a run fires a watch at the first change after each arming and at no other time.
-/
namespace DurableWatch.MemoryService

variable {s s' : MemoryService} {q : Path} {kind : WatchKind}

/-! ### What an operation does to one watch -/

/-- Whether the deed changes what the watch watches. -/
def Deed.touches (q : Path) : WatchKind → Deed → Bool
  | .data, create _ => false
  | .data, write p => p == q
  | .data, delete p => p == q
  | .children, create p => p.parent? == some q
  | .children, write _ => false
  | .children, delete p => p == q || p.parent? == some q

theorem Deed.mem_watches (deed : Deed) (q : Path) (kind : WatchKind) :
    (q, kind) ∈ deed.watches ↔ deed.touches q kind = true := by
  cases deed <;> cases kind <;> simp [watches, touches, @eq_comm _ q]

def Operation.deed? : Operation → Option Deed
  | .request (.create p _ _) => some (.create p)
  | .request (.writeData p _) => some (.write p)
  | .request (.delete p) => some (.delete p)
  | .change c => some (.ofChange c)
  | _ => none

/-- Whether the operation goes through. Those that are not answered always do. -/
def succeeds (s : MemoryService) : Operation → Bool
  | .request r => (s.ask r).1.isOk
  | .change c => (s.change c).1.isOk
  | .disconnect | .expire | .take => true

/-- The operation changes what the watch watches. -/
def touches (s : MemoryService) (op : Operation) (q : Path) (kind : WatchKind) : Bool :=
  s.succeeds op && op.deed?.any (·.touches q kind)

/-- The operation is a watched read that is answered and finds its watch unarmed. -/
def arms (s : MemoryService) (op : Operation) (q : Path) (kind : WatchKind) : Bool :=
  op = .request (kind.read q) && s.succeeds op && !s.armed q kind

/-- The watch is armed, and is cancelled or goes with its session. -/
def cancels (s : MemoryService) (op : Operation) (q : Path) (kind : WatchKind) : Bool :=
  s.armed q kind && s.succeeds op &&
    (op = .expire || kind = .data && op = .request (.cancelDataWatch q))

/-- The fires of the watch that wait for the connection when the session ends. -/
def dropped (s : MemoryService) (op : Operation) (q : Path) (kind : WatchKind) : Nat :=
  if op = .expire then s.pending.count (.watch q kind) else 0

/-- The notification of the watch that the operation takes from the channel, if it takes one. -/
def taken (s : MemoryService) (op : Operation) (q : Path) (kind : WatchKind) : Nat :=
  if op = .take then s.channel.head?.toList.count (.watch q kind) else 0

/-- The notifications of the watch that are on their way, with the one it has yet to send. -/
def held (s : MemoryService) (q : Path) (kind : WatchKind) : Nat :=
  s.channel.count (.watch q kind) + s.pending.count (.watch q kind) + (s.armed q kind).toNat

/-! ### Fires move a watch and lose none -/

theorem held_fire (s : MemoryService) (p q : Path) (k kind : WatchKind) :
    (s.fire p k).held q kind = s.held q kind := by
  by_cases fires : s.armed p k = true
  · by_cases same : (q, kind) = (p, k)
    · cases same
      have after := armed_fire_self s p k
      unfold held
      rw [after, fires]
      simp only [fire, fires, if_true]
      split <;> simp [send] <;> omega
    · have after : (s.fire p k).armed q kind = s.armed q kind := by
        rw [Bool.eq_iff_iff, armed_fire]
        simp [same]
      have other : Notification.watch p k ≠ .watch q kind := by
        rintro ⟨⟩
        exact same rfl
      unfold held
      rw [after]
      simp only [fire, fires, if_true]
      split <;> simp [send, List.count_append, other]
  · rw [fire_of_unarmed (Bool.eq_false_of_not_eq_true fires)]

theorem armed_fireAll (s : MemoryService) (watches : List (Path × WatchKind)) (q : Path)
    (kind : WatchKind) :
    (s.fireAll watches).armed q kind = true ↔ s.armed q kind = true ∧ (q, kind) ∉ watches := by
  induction watches generalizing s with
  | nil => simp
  | cons w watches ih =>
    rw [fireAll_cons, ih, armed_fire]
    simp
    tauto

theorem held_fireAll (s : MemoryService) (watches : List (Path × WatchKind)) (q : Path)
    (kind : WatchKind) : (s.fireAll watches).held q kind = s.held q kind := by
  induction watches generalizing s with
  | nil => simp
  | cons w watches ih => rw [fireAll_cons, ih, held_fire]

/-! ### What the operations do -/

theorem ask_refused (dead : s.alive = false) {r : Request} (other : r ≠ .reconnect) :
    (s.ask r).1.isOk = false ∧ (s.ask r).2 = s := by
  obtain ⟨e, -, refused⟩ := ask_of_dead dead other
  simp [refused, Except.isOk, Except.toBool]

theorem enacted_ask (s : MemoryService) (r : Request) {deed : Deed}
    (asks : (Operation.request r).deed? = some deed) :
    Enacted s deed (s.ask r).1.isOk (s.ask r).2 := by
  have other : r ≠ .reconnect := by
    rintro rfl
    cases asks
  cases living : s.alive with
  | false => exact .inl (ask_refused living other)
  | true =>
    rw [ask_of_alive living other]
    cases r <;> cases asks
    · exact enacted_setData s _ _
    · exact enacted_createNode s _ _
    · exact enacted_deleteNode s _

theorem enacted_perform (s : MemoryService) (op : Operation) {deed : Deed}
    (asks : op.deed? = some deed) : Enacted s deed (s.succeeds op) (s.perform op) := by
  cases op with
  | request r => exact enacted_ask s r asks
  | change c =>
    cases asks
    exact enacted_change s c
  | disconnect | expire | take => cases asks

/-! ### The books of one operation -/

/-- How the operation that turns `s` into `s'` shows in the accounts of one watch. -/
structure Accounted (s : MemoryService) (op : Operation) (s' : MemoryService) (q : Path)
    (kind : WatchKind) : Prop where
  armed : s'.armed q kind = true ↔ s.arms op q kind = true ∨
    s.armed q kind = true ∧ s.touches op q kind = false ∧ s.cancels op q kind = false
  held : s'.held q kind + s.taken op q kind + (s.cancels op q kind).toNat + s.dropped op q kind =
    s.held q kind + (s.arms op q kind).toNat
  apart : s.touches op q kind = true → s.cancels op q kind = false

theorem deed?_read (p : Path) (k : WatchKind) : (Operation.request (k.read p)).deed? = none := by
  cases k <;> rfl

theorem held_withNodes (t : Table Node) : held { s with nodes := t } q kind = s.held q kind := by
  simp only [held, armed_withNodes]

theorem accounted_of_deed {op : Operation} {deed : Deed} (asks : op.deed? = some deed) :
    Accounted s op (s.perform op) q kind := by
  have unread : s.arms op q kind = false := by
    have other : op ≠ .request (kind.read q) := by
      rintro rfl
      rw [deed?_read] at asks
      cases asks
    simp [arms, other]
  have uncancelled : s.cancels op q kind = false := by
    rcases op with (_ | _) | _ <;> simp_all [cancels, Operation.deed?]
  have kept : s.taken op q kind = 0 ∧ s.dropped op q kind = 0 := by
    rcases op with (_ | _) | _ <;> simp_all [taken, dropped, Operation.deed?]
  have touches : s.touches op q kind = (s.succeeds op && deed.touches q kind) := by
    simp [touches, asks]
  refine ⟨?_, ?_, fun _ => uncancelled⟩
  · rw [unread, uncancelled, touches]
    rcases enacted_perform s op asks with ⟨refused, same⟩ | ⟨done, t, new⟩
    · simp [refused, same]
    · rw [new.1, armed_fireAll, armed_withNodes, Deed.mem_watches]
      simp [done]
  · rw [unread, uncancelled, kept.1, kept.2]
    rcases enacted_perform s op asks with ⟨refused, same⟩ | ⟨done, t, new⟩
    · simp [same]
    · simp [new.1, held_fireAll, held_withNodes]

/-- A read is refused, or it is answered and its watch is armed. -/
theorem perform_read (s : MemoryService) (p : Path) (k : WatchKind) :
    s.succeeds (.request (k.read p)) = false ∧ s.perform (.request (k.read p)) = s ∨
      s.succeeds (.request (k.read p)) = true ∧ s.perform (.request (k.read p)) = s.arm p k := by
  have other : k.read p ≠ .reconnect := by cases k <;> simp [WatchKind.read]
  change (s.ask (k.read p)).1.isOk = false ∧ (s.ask (k.read p)).2 = s ∨
    (s.ask (k.read p)).1.isOk = true ∧ (s.ask (k.read p)).2 = s.arm p k
  cases living : s.alive with
  | false => exact .inl (ask_refused living other)
  | true =>
    rw [ask_of_alive living other]
    cases k <;> simp only [WatchKind.read, serve, read] <;> split
    · exact .inl ⟨rfl, rfl⟩
    · exact .inr ⟨rfl, rfl⟩
    · exact .inl ⟨rfl, rfl⟩
    · exact .inr ⟨rfl, rfl⟩

theorem held_arm (s : MemoryService) (p q : Path) (k kind : WatchKind) :
    (s.arm p k).held q kind =
      s.held q kind + (decide (q = p ∧ kind = k) && !s.armed q kind).toNat := by
  by_cases here : q = p ∧ kind = k
  · obtain ⟨rfl, rfl⟩ := here
    have after : (s.arm q kind).armed q kind = true :=
      (armed_arm s q q kind kind).2 (.inr ⟨rfl, rfl⟩)
    cases before : s.armed q kind <;> simp [held, before, after]
  · have after : (s.arm p k).armed q kind = s.armed q kind := by
      rw [Bool.eq_iff_iff, armed_arm]
      simp [here]
    simp [held, after, here]

theorem held_disarm (s : MemoryService) (p q : Path) (k kind : WatchKind) :
    (s.disarm p k).held q kind + (decide (q = p ∧ kind = k) && s.armed q kind).toNat =
      s.held q kind := by
  by_cases here : q = p ∧ kind = k
  · obtain ⟨rfl, rfl⟩ := here
    have after : (s.disarm q kind).armed q kind = false := by
      rw [Bool.eq_false_iff, ne_eq, armed_disarm]
      simp
    simp [held, after]
  · have after : (s.disarm p k).armed q kind = s.armed q kind := by
      rw [Bool.eq_iff_iff, armed_disarm]
      simp [here]
    simp [held, after, here]

theorem accounted_read (s : MemoryService) (p : Path) (k : WatchKind) (q : Path)
    (kind : WatchKind) :
    Accounted s (.request (k.read p)) (s.perform (.request (k.read p))) q kind := by
  have untouched : s.touches (.request (k.read p)) q kind = false := by
    simp [touches, deed?_read]
  have uncancelled : s.cancels (.request (k.read p)) q kind = false := by
    cases k <;> simp [cancels, WatchKind.read]
  have kept : s.taken (.request (k.read p)) q kind = 0 ∧
      s.dropped (.request (k.read p)) q kind = 0 := by simp [taken, dropped]
  have same : k.read p = kind.read q ↔ q = p ∧ kind = k := by
    cases k <;> cases kind <;> simp [WatchKind.read, @eq_comm _ p]
  rcases perform_read s p k with ⟨refused, still⟩ | ⟨done, new⟩
  · have unread : s.arms (.request (k.read p)) q kind = false := by simp [arms, refused]
    refine ⟨?_, ?_, fun _ => uncancelled⟩
    · simp [unread, untouched, uncancelled, still]
    · simp [unread, uncancelled, kept, still]
  · have read : s.arms (.request (k.read p)) q kind =
        (decide (q = p ∧ kind = k) && !s.armed q kind) := by simp [arms, same, done]
    refine ⟨?_, ?_, fun _ => uncancelled⟩
    · rw [read, untouched, uncancelled, new, armed_arm]
      cases s.armed q kind <;> simp
    · rw [read, uncancelled, kept.1, kept.2, new, held_arm]
      simp

/-- A cancellation is refused, or it is done and the watch is unarmed. -/
theorem perform_cancel (s : MemoryService) (p : Path) :
    s.succeeds (.request (.cancelDataWatch p)) = false ∧
        s.perform (.request (.cancelDataWatch p)) = s ∨
      s.succeeds (.request (.cancelDataWatch p)) = true ∧
        s.perform (.request (.cancelDataWatch p)) = s.disarm p .data := by
  have other : Request.cancelDataWatch p ≠ .reconnect := by simp
  cases living : s.alive with
  | false => exact .inl (ask_refused living other)
  | true =>
    have served := ask_of_alive living other
    simp only [succeeds, perform, served]
    exact .inr ⟨rfl, rfl⟩

theorem accounted_cancel (s : MemoryService) (p q : Path) (kind : WatchKind) :
    Accounted s (.request (.cancelDataWatch p)) (s.perform (.request (.cancelDataWatch p)))
      q kind := by
  have unread : s.arms (.request (.cancelDataWatch p)) q kind = false := by
    cases kind <;> simp [arms, WatchKind.read]
  have untouched : s.touches (.request (.cancelDataWatch p)) q kind = false := by
    simp [touches, Operation.deed?]
  have kept : s.taken (.request (.cancelDataWatch p)) q kind = 0 ∧
      s.dropped (.request (.cancelDataWatch p)) q kind = 0 := by simp [taken, dropped]
  rcases perform_cancel s p with ⟨refused, still⟩ | ⟨done, new⟩
  · have uncancelled : s.cancels (.request (.cancelDataWatch p)) q kind = false := by
      simp [cancels, refused]
    refine ⟨?_, ?_, by simp [untouched]⟩
    · simp [unread, untouched, uncancelled, still]
    · simp [unread, uncancelled, kept, still]
  · have cancelled : s.cancels (.request (.cancelDataWatch p)) q kind =
        (decide (q = p ∧ kind = .data) && s.armed q kind) := by
      rw [Bool.eq_iff_iff]
      simp [cancels, done, @eq_comm _ p]
      tauto
    refine ⟨?_, ?_, by simp [untouched]⟩
    · rw [unread, untouched, cancelled, new, armed_disarm]
      cases s.armed q kind <;> simp
    · rw [unread, cancelled, kept.1, kept.2, new]
      have freed := held_disarm s p q .data kind
      simp only [Bool.toNat_false]
      omega

/-- The watch stays as it is, and its fires stay or go to the channel. -/
theorem accounted_aside {op : Operation} (unasked : op.deed? = none)
    (unread : op ≠ .request (kind.read q))
    (uncancelled : s.cancels op q kind = false)
    (armed : (s.perform op).armed q kind = s.armed q kind)
    (held : (s.perform op).held q kind + s.taken op q kind + s.dropped op q kind =
      s.held q kind) : Accounted s op (s.perform op) q kind := by
  have quiet : s.arms op q kind = false := by simp [arms, unread]
  have untouched : s.touches op q kind = false := by simp [touches, unasked]
  refine ⟨?_, ?_, by simp [untouched]⟩
  · simp [armed, quiet, untouched, uncancelled]
  · simpa [quiet, uncancelled] using held

/-- A request that only looks changes nothing. -/
theorem perform_look (s : MemoryService) (r : Request) (other : r ≠ .reconnect)
    (look : ∀ s : MemoryService, (s.serve r).2 = s) : s.perform (.request r) = s := by
  change (s.ask r).2 = s
  cases living : s.alive with
  | false => exact (ask_refused living other).2
  | true => rw [ask_of_alive living other, look]

theorem accounted_idle {op : Operation} (unasked : op.deed? = none)
    (unread : op ≠ .request (kind.read q))
    (uncancelled : s.cancels op q kind = false) (still : s.perform op = s)
    (kept : s.taken op q kind = 0 ∧ s.dropped op q kind = 0) :
    Accounted s op (s.perform op) q kind :=
  accounted_aside unasked unread uncancelled (by rw [still]) (by simp [still, kept])

theorem serve_unwatched (s : MemoryService) (p : Path) :
    (s.serve (.readData p false)).2 = s ∧ (s.serve (.listChildren p false)).2 = s := by
  constructor <;> simp only [serve, read] <;> split <;> rfl

theorem accounted_reconnect (s : MemoryService) (q : Path) (kind : WatchKind) :
    Accounted s (.request .reconnect) (s.perform (.request .reconnect)) q kind := by
  refine accounted_aside rfl ?_ (by simp [cancels]) (armed_reconnect s q kind) ?_
  · cases kind <;> simp [WatchKind.read]
  · change s.reconnect.held q kind + 0 + 0 = s.held q kind
    simp only [held, armed_reconnect]
    unfold reconnect
    split
    · simp
    · simp [List.count_append]

theorem accounted_expire (s : MemoryService) (q : Path) (kind : WatchKind) :
    Accounted s .expire (s.perform .expire) q kind := by
  have unread : s.arms .expire q kind = false := by simp [arms]
  have cancelled : s.cancels .expire q kind = s.armed q kind := by simp [cancels, succeeds]
  have gone : (s.perform .expire).armed q kind = false := by cases kind <;> rfl
  refine ⟨?_, ?_, by simp [touches, Operation.deed?]⟩
  · rw [unread, cancelled, gone]
    cases s.armed q kind <;> simp
  · have left : (s.perform .expire).held q kind = s.channel.count (.watch q kind) := by
      unfold held
      rw [gone]
      simp [perform, expireSession, send]
    rw [unread, cancelled, left]
    simp only [held, taken, dropped, reduceCtorEq, if_false, if_true, Bool.toNat_false]
    omega

theorem accounted_take (s : MemoryService) (q : Path) (kind : WatchKind) :
    Accounted s .take (s.perform .take) q kind := by
  have same : (s.perform .take).armed q kind = s.armed q kind := by cases kind <;> rfl
  refine accounted_aside rfl (by simp) (by simp [cancels]) same ?_
  unfold held
  rw [same]
  simp only [taken, dropped, perform, reduceCtorEq, if_false, if_true]
  cases s.channel with
  | nil => simp
  | cons n rest =>
    simp only [List.tail_cons, List.head?_cons, Option.toList_some, List.count_cons,
      List.count_nil]
    omega

/-- Every operation settles the accounts of every watch. -/
theorem accounted_perform (s : MemoryService) (op : Operation) (q : Path) (kind : WatchKind) :
    Accounted s op (s.perform op) q kind := by
  cases op with
  | request r =>
    cases r with
    | writeData p d => exact accounted_of_deed rfl
    | create p d mode => exact accounted_of_deed rfl
    | delete p => exact accounted_of_deed rfl
    | cancelDataWatch p => exact accounted_cancel s p q kind
    | reconnect => exact accounted_reconnect s q kind
    | existence p =>
      refine accounted_idle rfl ?_ (by simp [cancels]) ?_ (by simp [taken, dropped])
      · cases kind <;> simp [WatchKind.read]
      · exact perform_look s _ (by simp) fun _ => rfl
    | readData p watch =>
      cases watch with
      | true => exact accounted_read s p .data q kind
      | false =>
        refine accounted_idle rfl ?_ (by simp [cancels]) ?_ (by simp [taken, dropped])
        · cases kind <;> simp [WatchKind.read]
        · exact perform_look s _ (by simp) fun s => (serve_unwatched s p).1
    | listChildren p watch =>
      cases watch with
      | true => exact accounted_read s p .children q kind
      | false =>
        refine accounted_idle rfl ?_ (by simp [cancels]) ?_ (by simp [taken, dropped])
        · cases kind <;> simp [WatchKind.read]
        · exact perform_look s _ (by simp) fun s => (serve_unwatched s p).2
  | change c => exact accounted_of_deed rfl
  | disconnect =>
    refine accounted_aside rfl (by simp) (by simp [cancels]) ?_ ?_
    · cases kind <;> rfl
    · cases kind <;> simp [perform, disconnect, send, held, taken, dropped, armed]
  | expire => exact accounted_expire s q kind
  | take => exact accounted_take s q kind

/-- A watch that is armed, or gets armed, is armed afterwards, or is discarded, or has fired. -/
theorem Accounted.turnover {op : Operation} (step : Accounted s op s' q kind) :
    (s'.armed q kind).toNat + (s.cancels op q kind).toNat +
        (s.touches op q kind && s.armed q kind).toNat =
      (s.armed q kind).toNat + (s.arms op q kind).toNat := by
  have unarmed : s.armed q kind = true → s.arms op q kind = false := by
    intro h
    simp [arms, h]
  have armed : s.armed q kind = false → s.cancels op q kind = false := by
    intro h
    simp [cancels, h]
  have after := step.armed
  have apart := step.apart
  cases was : s.armed q kind with
  | false =>
    rw [was] at after
    have same : s'.armed q kind = s.arms op q kind := by
      rw [Bool.eq_iff_iff, after]
      simp
    simp [same, armed was]
  | true =>
    rw [was, unarmed was] at after
    cases touched : s.touches op q kind with
    | false =>
      cases cancelled : s.cancels op q kind <;> simp_all
    | true =>
      have gone : s'.armed q kind = false := by simpa [touched] using after
      simp [gone, apart touched, unarmed was]

/-! ### Whole runs -/

/-- The sum of the counts over a run that starts in `s`, each taken where its operation is done. -/
def total (count : MemoryService → Operation → Nat) : MemoryService → List Operation → Nat
  | _, [] => 0
  | s, op :: ops => count s op + total count (s.perform op) ops

theorem history_concat (operations : List Operation) (op : Operation) :
    history (operations ++ [op]) = (history operations).perform op := by
  simp [history]

theorem total_concat (count : MemoryService → Operation → Nat) (s : MemoryService)
    (operations : List Operation) (op : Operation) :
    total count s (operations ++ [op]) =
      total count s operations + count (operations.foldl perform s) op := by
  induction operations generalizing s with
  | nil => simp [total]
  | cons first rest ih =>
    simp only [List.cons_append, total, ih, List.foldl_cons]
    omega

section runs

variable (operations : List Operation) (q : Path) (kind : WatchKind)

/-- How often the watch was armed. -/
def armings : Nat := total (fun s op => (s.arms op q kind).toNat) new operations

def cancellations : Nat := total (fun s op => (s.cancels op q kind).toNat) new operations

def drops : Nat := total (fun s op => s.dropped op q kind) new operations

/-- How many notifications of the watch were sent, taken out of the channel since or not. -/
def sent : Nat :=
  total (fun s op => s.taken op q kind) new operations +
    (history operations).channel.count (.watch q kind)

/-- How often the watch fired, whatever became of its notifications. -/
def fires : Nat :=
  sent operations q kind + (history operations).pending.count (.watch q kind) +
    drops operations q kind

end runs

/-- No operation changes what the watch watches, or takes the watch away. -/
def Undisturbed (q : Path) (kind : WatchKind) : MemoryService → List Operation → Prop
  | _, [] => True
  | s, op :: operations =>
    (s.touches op q kind = false ∧ s.cancels op q kind = false) ∧
      Undisturbed q kind (s.perform op) operations

/-- The watch was armed in the course of the run, and has not been disturbed since. -/
def ArmedSince (operations : List Operation) (q : Path) (kind : WatchKind) : Prop :=
  ∃ before arming since, operations = before ++ arming :: since ∧
    (history before).arms arming q kind = true ∧
      Undisturbed q kind (history (before ++ [arming])) since

theorem undisturbed_concat (s : MemoryService) (operations : List Operation) (op : Operation) :
    Undisturbed q kind s (operations ++ [op]) ↔
      Undisturbed q kind s operations ∧ (operations.foldl perform s).touches op q kind = false ∧
        (operations.foldl perform s).cancels op q kind = false := by
  induction operations generalizing s with
  | nil => simp [Undisturbed]
  | cons first rest ih => simp [Undisturbed, ih, and_assoc]

theorem history_from (before since : List Operation) :
    since.foldl perform (history before) = history (before ++ since) := by
  simp [history]

/-- A watch is armed since the last operation, or since an earlier one. -/
theorem armedSince_concat (operations : List Operation) (op : Operation) :
    ArmedSince (operations ++ [op]) q kind ↔
      (history operations).arms op q kind = true ∨ ArmedSince operations q kind ∧
        (history operations).touches op q kind = false ∧
          (history operations).cancels op q kind = false := by
  constructor
  · rintro ⟨before, arming, since, split, arms, quiet⟩
    rcases List.eq_nil_or_concat since with rfl | ⟨since, last, rfl⟩
    · obtain ⟨rfl, same⟩ := List.append_inj' split rfl
      obtain rfl : op = arming := by simpa using same
      exact .inl arms
    · have parts : operations ++ [op] = (before ++ arming :: since) ++ [last] := by
        simpa using split
      obtain ⟨rfl, same⟩ := List.append_inj' parts rfl
      obtain rfl : op = last := by simpa using same
      rw [List.concat_eq_append, undisturbed_concat, history_from] at quiet
      rw [List.append_assoc, List.singleton_append] at quiet
      exact .inr ⟨⟨before, arming, since, rfl, arms, quiet.1⟩, quiet.2⟩
  · rintro (arms | ⟨⟨before, arming, since, rfl, arms, quiet⟩, last⟩)
    · exact ⟨operations, op, [], rfl, arms, trivial⟩
    · refine ⟨before, arming, since ++ [op], by simp, arms, ?_⟩
      rw [undisturbed_concat, history_from, List.append_assoc, List.singleton_append]
      exact ⟨quiet, last⟩

theorem armed_iff_armedSince (operations : List Operation) (q : Path) (kind : WatchKind) :
    (history operations).armed q kind = true ↔ ArmedSince operations q kind := by
  induction operations using List.reverseRecOn with
  | nil =>
    have unarmed : (history []).armed q kind = false := by cases kind <;> rfl
    have never : ¬ArmedSince [] q kind := by
      rintro ⟨before, arming, since, split, -⟩
      simp at split
    simp [unarmed, never]
  | append_singleton operations op ih =>
    rw [history_concat, (accounted_perform _ op q kind).armed, armedSince_concat, ih]

/-- What was armed is in the channel, waits, is still armed, was taken, or was discarded. -/
theorem balance (operations : List Operation) (q : Path) (kind : WatchKind) :
    armings operations q kind =
      fires operations q kind + ((history operations).armed q kind).toNat +
        cancellations operations q kind := by
  induction operations using List.reverseRecOn with
  | nil => cases kind <;> rfl
  | append_singleton operations op ih =>
    have step := (accounted_perform (history operations) op q kind).held
    simp only [armings, fires, sent, drops, cancellations, total_concat, history_concat] at ih ⊢
    simp only [held, history] at *
    omega

theorem fires_concat (operations : List Operation) (op : Operation) (q : Path)
    (kind : WatchKind) :
    fires (operations ++ [op]) q kind = fires operations q kind +
      ((history operations).touches op q kind && (history operations).armed q kind).toNat := by
  have step := accounted_perform (history operations) op q kind
  have armings' : armings (operations ++ [op]) q kind =
      armings operations q kind + ((history operations).arms op q kind).toNat :=
    total_concat _ new operations op
  have cancellations' : cancellations (operations ++ [op]) q kind =
      cancellations operations q kind + ((history operations).cancels op q kind).toNat :=
    total_concat _ new operations op
  have before := balance operations q kind
  have after := balance (operations ++ [op]) q kind
  rw [history_concat] at after
  have turnover := step.turnover
  omega

/-- A watch that has been armed has fired, is still armed, or has been discarded: cancelled, lost
with its session while it was armed, or lost while its fire waited. It fires at the first change of
what it watches after it was armed, and at no other time. -/
theorem watches_conserved (operations : List Operation) (q : Path) (kind : WatchKind) :
    armings operations q kind =
        sent operations q kind + (history operations).pending.count (.watch q kind) +
          ((history operations).armed q kind).toNat +
            (cancellations operations q kind + drops operations q kind) ∧
      ∀ op, (fires (operations ++ [op]) q kind = fires operations q kind + 1 ↔
          (history operations).touches op q kind = true ∧ ArmedSince operations q kind) ∧
        (fires (operations ++ [op]) q kind = fires operations q kind ↔
          ¬((history operations).touches op q kind = true ∧ ArmedSince operations q kind)) := by
  constructor
  · have settled := balance operations q kind
    simp only [fires] at settled
    omega
  · intro op
    rw [fires_concat, ← armed_iff_armedSince, ← Bool.and_eq_true]
    cases (history operations).touches op q kind && (history operations).armed q kind <;> simp

/-- Two changes after one read: the watch fires at the first. -/
example :
    let first : List Operation := [.request (.readData "/" true), .change (.setData "/" ⟨#[1]⟩)]
    fires first "/" .data = 1 ∧ fires (first ++ [.change (.setData "/" ⟨#[2]⟩)]) "/" .data = 1 := by
  decide

end DurableWatch.MemoryService
