import Lx.Linux.NetlinkSocketProvider
import Lx.Lib.Interleaving

/-!
# Dumps that share a socket

All dumps of a query use one netlink socket. The kernel appends its answer to a request to
the queue of that socket, and a dump takes datagrams from the front until it has seen the
end of its answer or something it cannot accept. What it has not taken by then is still
there when the next dump starts, under the wrong sequence number.

`dump_isolated_iff`: the outcome of a dump depends on the answer to its own request alone
exactly if every dump before it got to the last datagram of its answer.

## Layers

- `sockDiag`: the socket as a world
- `one_runs`, `exists_one_runs`: one dump in that world is `drain` on the queue
- `one_queue`, `runDumps_queue`: what one dump, and any number of them, leave in the queue
-/

namespace Lx.Netlink

open Interaction World

/-! ## §1 The socket -/

/-- The kernel's answer to one request: what `sendto` returns, and what is put into the
    queue if the request was taken. -/
structure KernelAnswer where
  sent : { answer : SysReturn // ¬ (answer.ret < 0 ∧ answer.errno = Errno.eintr) }
  datagrams : List Received

/-- The queue of the socket, and how the kernel is going to answer. -/
structure SockDiag where
  queue : List Received
  answers : List KernelAnswer

/-- What the queue looks like once a request has been answered. -/
def KernelAnswer.enqueue (answer : KernelAnswer) (request : Bytes) (queue : List Received) :
    List Received :=
  if Unsent request answer.sent.val then queue else queue ++ answer.datagrams

def SockDiag.Answers (w : SockDiag) : (call : SysCall) → call.Answer → SockDiag → Prop
  | .sendto request, sent, w' => ∃ answer, w.answers = answer :: w'.answers ∧
      sent = answer.sent ∧ w'.queue = answer.enqueue request w.queue
  | .recv, x, w' => w.queue = x :: w'.queue ∧ w'.answers = w.answers
  | _, _, w' => w' = w

/-- Nothing happens to the socket between the calls. -/
abbrev sockDiag : World Sys where
  State := SockDiag
  Move := Empty
  move _ _ _ := False
  answer w call x w' := w.Answers call x w'

variable {w w' : SockDiag} {log : sockDiag.Log}

theorem log_eq_map (log : sockDiag.Log) : log = (events log).map .inr := by
  induction log with
  | nil => rfl
  | cons item log ih =>
    cases item with
    | inl m => exact m.elim
    | inr e => exact congrArg (.inr e :: ·) ih

/-- Reading takes from the front of the queue. -/
theorem path_received {read : List Received} :
    sockDiag.Path w ((read.map received).map .inr) w' ↔
      w.queue = read ++ w'.queue ∧ w'.answers = w.answers := by
  induction read generalizing w with
  | nil =>
    constructor
    · rintro rfl
      exact ⟨rfl, rfl⟩
    · rintro ⟨hqueue, hanswers⟩
      cases w
      cases w'
      simp_all [World.Path]
  | cons x read ih =>
    constructor
    · rintro ⟨v, ⟨hqueue, hanswers⟩, hrest⟩
      obtain ⟨hqueue', hanswers'⟩ := ih.mp hrest
      refine ⟨?_, hanswers'.trans hanswers⟩
      rw [hqueue, hqueue']
      rfl
    · rintro ⟨hqueue, hanswers⟩
      exact ⟨⟨read ++ w'.queue, w.answers⟩, ⟨hqueue, rfl⟩, ih.mpr ⟨rfl, hanswers⟩⟩

/-! ## §2 One dump on the queue -/

section Drain

variable {strerror : Int → Bytes} {sequence : Nat} {protocol : TransportProtocol}
  {values : List SocketInfo} {r : Result (List SocketInfo)} {queue left : List Received}

/-- A datagram after which the loop goes on. -/
def Continues (strerror : Int → Bytes) (sequence : Nat) (protocol : TransportProtocol)
    (x : Received) : Prop :=
  ∃ data batch, x = .ok data ∧
    parseInetDiagDatagram strerror data sequence protocol = .ok batch ∧ batch.done = false

/-- **What one datagram does**, whatever comes behind it: it ends the loop, or it adds its
    sockets and the loop goes on. -/
theorem drain_cons (strerror : Int → Bytes) (sequence : Nat) (protocol : TransportProtocol)
    (x : Received) (values : List SocketInfo) :
    (¬ Continues strerror sequence protocol x ∧
      ∃ r, ∀ queue, drain strerror sequence protocol (x :: queue) values = some (r, queue)) ∨
    Continues strerror sequence protocol x ∧ ∃ values', ∀ queue,
      drain strerror sequence protocol (x :: queue) values =
        drain strerror sequence protocol queue values' := by
  cases x with
  | error errno =>
    refine .inl ⟨?_, _, fun queue => rfl⟩
    rintro ⟨data, batch, hdata, -⟩
    cases hdata
  | ok data =>
    cases hparsed : parseInetDiagDatagram strerror data sequence protocol with
    | error error =>
      refine .inl ⟨?_, .error error, fun queue => by simp only [drain, hparsed]⟩
      rintro ⟨data', batch, hdata, hbatch, -⟩
      cases hdata
      rw [hparsed] at hbatch
      cases hbatch
    | ok batch =>
      cases hdone : batch.done with
      | true =>
        refine .inl ⟨?_, .ok (values ++ batch.sockets), fun queue => by simp [drain, hparsed, hdone]⟩
        rintro ⟨data', batch', hdata, hbatch, hopen⟩
        cases hdata
        rw [hparsed] at hbatch
        cases hbatch
        rw [hdone] at hopen
        cases hopen
      | false =>
        exact .inr ⟨⟨data, batch, rfl, hparsed, hdone⟩, values ++ batch.sockets,
          fun queue => by simp [drain, hparsed, hdone]⟩

/-- The loop does not look beyond what it reads. -/
theorem drain_append (h : drain strerror sequence protocol queue values = some (r, left))
    (more : List Received) :
    drain strerror sequence protocol (queue ++ more) values = some (r, left ++ more) := by
  induction queue generalizing values with
  | nil => cases h
  | cons x queue ih =>
    rw [List.cons_append]
    rcases drain_cons strerror sequence protocol x values with ⟨-, r', hends⟩ | ⟨-, values', hgoes⟩
    · rw [hends] at h ⊢
      cases h
      rfl
    · rw [hgoes] at h ⊢
      exact ih h

/-- What was read, and what is left. -/
theorem drain_split (h : drain strerror sequence protocol queue values = some (r, left)) :
    ∃ read, queue = read ++ left ∧
      drain strerror sequence protocol read values = some (r, []) := by
  induction queue generalizing values with
  | nil => cases h
  | cons x queue ih =>
    rcases drain_cons strerror sequence protocol x values with ⟨-, r', hends⟩ | ⟨-, values', hgoes⟩
    · rw [hends] at h
      cases h
      exact ⟨[x], rfl, hends []⟩
    · rw [hgoes] at h
      obtain ⟨read, rfl, hread⟩ := ih h
      exact ⟨x :: read, rfl, (hgoes read).trans hread⟩

/-- A queue is used up exactly if nothing but its last datagram ends the loop. -/
theorem drain_left_nil_iff (h : drain strerror sequence protocol queue values = some (r, left)) :
    left = [] ↔ ∀ x ∈ queue.dropLast, Continues strerror sequence protocol x := by
  induction queue generalizing values with
  | nil => cases h
  | cons x queue ih =>
    rcases drain_cons strerror sequence protocol x values with ⟨hx, r', hends⟩ | ⟨hx, values', hgoes⟩
    · -- a datagram that ends the loop has to be the last one
      rw [hends] at h
      obtain ⟨-, rfl⟩ := Prod.mk.inj (Option.some.inj h)
      cases queue with
      | nil => simp
      | cons y queue =>
        constructor
        · intro hnil
          cases hnil
        · intro hall
          exact absurd (hall x (by simp)) hx
    · rw [hgoes] at h
      have hqueue : queue ≠ [] := by
        rintro rfl
        cases h
      rw [ih h, List.dropLast_cons_of_ne_nil hqueue]
      simp [hx]

end Drain

section Dump

variable {strerror : Int → Bytes} {sequence datagrams : Nat} {protocol : TransportProtocol}
  {family : AddressFamily} {r : Result (List SocketInfo)}

/-- A dump in the world of the socket. -/
theorem one_runs (h : sockDiag.Runs (one strerror datagrams family protocol sequence) w log r w') :
    ∃ own, w.answers = own :: w'.answers ∧
      (Unsent (dumpRequest family protocol sequence) own.sent.val ∧ w'.queue = w.queue ∧
        r = .error (socketError strerror "send sock-diag request" own.sent.val.errno) ∨
      ¬ Unsent (dumpRequest family protocol sequence) own.sent.val ∧
        drain strerror sequence protocol (w.queue ++ own.datagrams) [] = some (r, w'.queue)) := by
  obtain ⟨hrun, hpath⟩ := h
  obtain ⟨sent, t, hevents, hone⟩ := one_run_iff.mp hrun
  rw [log_eq_map log, hevents] at hpath
  obtain ⟨v, ⟨own, hanswers, rfl, hqueue⟩, hrest⟩ := hpath
  unfold KernelAnswer.enqueue at hqueue
  rcases hone with ⟨hunsent, rfl, rfl⟩ | ⟨hsent, read, rfl, -, hdrain⟩
  · rw [if_pos hunsent] at hqueue
    obtain rfl := hrest
    exact ⟨own, hanswers, .inl ⟨hunsent, hqueue, rfl⟩⟩
  · rw [if_neg hsent] at hqueue
    obtain ⟨hread, hanswers'⟩ := path_received.mp hrest
    refine ⟨own, by rw [hanswers, hanswers'], .inr ⟨hsent, ?_⟩⟩
    rw [← hqueue, hread]
    simpa using drain_append hdrain w'.queue

/-- What `drain` computes is what a dump with enough fuel does. -/
theorem exists_one_runs {own : KernelAnswer} {queue left : List Received} {answers : List KernelAnswer}
    (hsent : ¬ Unsent (dumpRequest family protocol sequence) own.sent.val)
    (h : drain strerror sequence protocol (queue ++ own.datagrams) [] = some (r, left)) :
    ∃ datagrams log, sockDiag.Runs (one strerror datagrams family protocol sequence)
      ⟨queue, own :: answers⟩ log r ⟨left, answers⟩ := by
  obtain ⟨read, hread, hdrain⟩ := drain_split h
  refine ⟨read.length, (⟨.sendto (dumpRequest family protocol sequence), own.sent⟩ ::
    read.map received).map .inr, ?_, ?_⟩
  · rw [events_map_inr]
    exact one_run_iff.mpr ⟨own.sent, _, rfl, .inr ⟨hsent, read, rfl, le_rfl, hdrain⟩⟩
  · refine ⟨⟨queue ++ own.datagrams, answers⟩, ⟨own, rfl, rfl, ?_⟩, path_received.mpr ⟨hread, rfl⟩⟩
    exact (if_neg hsent).symm

end Dump

/-! ## §3 What dumps leave behind -/

/-- A dump of a query: transport protocol and address family. -/
abbrev Target := TransportProtocol × AddressFamily

def Target.request (target : Target) (sequence : Nat) : Bytes :=
  dumpRequest target.2 target.1 sequence

/-- The first message of a datagram carries this sequence number. An error of `recv` carries
    none. -/
def Carries (sequence : Nat) (x : Received) : Prop :=
  ∀ data, x = .ok data →
    headerSize ≤ data.val.length ∧ (readHeader data.val).sequence = sequence

/-- The kernel answers a request with one or more datagrams that carry its number. -/
def Answered (target : Target) (sequence : Nat) (answer : KernelAnswer) : Prop :=
  ¬ Unsent (target.request sequence) answer.sent.val →
    answer.datagrams ≠ [] ∧ ∀ x ∈ answer.datagrams, Carries sequence x

/-- The dump gets to the last datagram of its answer: nothing before it is the end of the
    dump, an error or malformed. -/
def ReadWhole (strerror : Int → Bytes) (target : Target) (sequence : Nat) (answer : KernelAnswer) :
    Prop :=
  ¬ Unsent (target.request sequence) answer.sent.val →
    ∀ x ∈ answer.datagrams.dropLast, Continues strerror sequence target.1 x

/-- Everything in the queue belongs to earlier requests. -/
def Stale (sequence : Nat) (queue : List Received) : Prop :=
  ∀ x ∈ queue, ∃ earlier < sequence, Carries earlier x

section Queue

variable {strerror : Int → Bytes} {sequence datagrams : Nat} {target : Target}
  {r : Result (List SocketInfo)}

/-- A datagram with another number is refused. -/
theorem parse_stale {data : Datagram} {earlier : Nat} {protocol : TransportProtocol}
    (hcarries : Carries earlier (.ok data)) (hne : earlier ≠ sequence) :
    ∃ error, parseInetDiagDatagram strerror data sequence protocol = .error error := by
  obtain ⟨hlength, hsequence⟩ := hcarries data rfl
  have hpositive : 0 < headerSize := by decide
  unfold parseInetDiagDatagram
  rw [parseMessages, dif_pos (by omega), if_neg (by omega)]
  simp only [List.drop_zero]
  by_cases hinvalid : (readHeader data.val).length < headerSize ∨
      data.val.length - 0 < (readHeader data.val).length
  · rw [dif_pos hinvalid]
    exact ⟨_, rfl⟩
  · rw [dif_neg hinvalid, if_pos (by rw [hsequence]; exact hne)]
    exact ⟨_, rfl⟩

/-- A dump that finds something stale in the queue fails on it. -/
theorem drain_stale {x : Received} {rest : List Received} {protocol : TransportProtocol}
    {values : List SocketInfo} {earlier : Nat} (hcarries : Carries earlier x)
    (hne : earlier ≠ sequence) :
    ∃ error, drain strerror sequence protocol (x :: rest) values = some (.error error, rest) := by
  cases x with
  | error errno => exact ⟨_, rfl⟩
  | ok data =>
    have hparsed : ∃ error, parseInetDiagDatagram strerror data sequence protocol = .error error :=
      parse_stale hcarries hne
    obtain ⟨error, hparsed⟩ := hparsed
    exact ⟨error, by simp only [drain, hparsed]⟩

/-- **One dump**: the queue is empty after it exactly if it was empty before and the dump
    read its whole answer. -/
theorem one_queue
    (h : sockDiag.Runs (one strerror datagrams target.2 target.1 sequence) w log r w')
    (hstale : Stale sequence w.queue)
    (hanswered : ∀ own ∈ w.answers.head?, Answered target sequence own) :
    Stale (sequence + 1) w'.queue ∧
      (w'.queue = [] ↔ w.queue = [] ∧ ∀ own ∈ w.answers.head?, ReadWhole strerror target sequence own) := by
  obtain ⟨own, hanswers, hone⟩ := one_runs h
  rw [hanswers] at hanswered ⊢
  simp only [List.head?_cons, Option.mem_def, Option.some.injEq, forall_eq'] at hanswered ⊢
  rcases hone with ⟨hunsent, hqueue, -⟩ | ⟨hsent, hdrain⟩
  · rw [hqueue]
    refine ⟨fun x hx => ?_, ?_⟩
    · obtain ⟨earlier, hlt, hcarries⟩ := hstale x hx
      exact ⟨earlier, by omega, hcarries⟩
    · have hread : ReadWhole strerror target sequence own := fun hsent => absurd hunsent hsent
      simp [hread]
  · obtain ⟨hnonempty, hcarries⟩ := hanswered hsent
    constructor
    · -- what is left was in the queue or came with the answer
      obtain ⟨read, hread, -⟩ := drain_split hdrain
      intro x hx
      have hmem : x ∈ w.queue ++ own.datagrams := by
        rw [hread]
        exact List.mem_append_right read hx
      rcases List.mem_append.mp hmem with hx | hx
      · obtain ⟨earlier, hlt, hearlier⟩ := hstale x hx
        exact ⟨earlier, by omega, hearlier⟩
      · exact ⟨sequence, by omega, hcarries x hx⟩
    · cases hqueue : w.queue with
      | nil =>
        rw [hqueue, List.nil_append] at hdrain
        have hread : ReadWhole strerror target sequence own ↔
            ∀ x ∈ own.datagrams.dropLast, Continues strerror sequence target.1 x :=
          ⟨fun hread => hread hsent, fun hread _ => hread⟩
        rw [drain_left_nil_iff hdrain, hread]
        simp
      | cons x queue =>
        -- the dump fails on the first datagram, so its own answer stays behind
        obtain ⟨earlier, hlt, hearlier⟩ := hstale x (by rw [hqueue]; simp)
        have hfail : ∃ error, drain strerror sequence target.1 (x :: (queue ++ own.datagrams)) [] =
            some (.error error, queue ++ own.datagrams) := drain_stale hearlier (Nat.ne_of_lt hlt)
        obtain ⟨error, hfail⟩ := hfail
        rw [hqueue, List.cons_append, hfail] at hdrain
        simp only [Option.some.injEq, Prod.mk.injEq] at hdrain
        rw [← hdrain.2]
        simp [hnonempty]

/-- **Any number of dumps**: the queue is empty after them exactly if it was empty before and
    each of them read its whole answer. -/
theorem runDumps_queue {query : SocketQuery} {targets : List Target} {state final : DumpState}
    (h : sockDiag.Runs (runDumps strerror datagrams query targets sequence state) w log final w')
    (hstale : Stale sequence w.queue)
    (hanswered : ∀ dump ∈ (targets.zip w.answers).zipIdx sequence,
      Answered dump.1.1 dump.2 dump.1.2) :
    Stale (sequence + targets.length) w'.queue ∧
      (w'.queue = [] ↔ w.queue = [] ∧ ∀ dump ∈ (targets.zip w.answers).zipIdx sequence,
        ReadWhole strerror dump.1.1 dump.2 dump.1.2) := by
  induction targets generalizing sequence state w log with
  | nil =>
    obtain ⟨-, hidle⟩ := runs_ret_iff.mp h
    obtain ⟨hevents, hpath⟩ := hidle
    rw [log_eq_map log, hevents] at hpath
    obtain rfl := hpath
    exact ⟨hstale, by simp⟩
  | cons target targets ih =>
    obtain ⟨outcome, l₁, l₂, v, -, hone, hrest⟩ := runs_bind_iff.mp h
    obtain ⟨own, hanswers, -⟩ := one_runs hone
    rw [hanswers, List.zip_cons_cons, List.zipIdx_cons] at hanswered
    have hown : ∀ answer ∈ w.answers.head?, Answered target sequence answer := by
      rw [hanswers]
      rintro answer ⟨⟩
      exact hanswered ((target, own), sequence) (List.mem_cons_self ..)
    obtain ⟨hstale', hqueue⟩ := one_queue hone hstale hown
    obtain ⟨hstale'', hqueue'⟩ := ih hrest hstale'
      (fun dump hdump => hanswered dump (List.mem_cons_of_mem _ hdump))
    constructor
    · rw [List.length_cons, Nat.add_comm targets.length, ← Nat.add_assoc]
      exact hstale''
    · rw [hqueue', hqueue, hanswers, List.zip_cons_cons, List.zipIdx_cons]
      simp [and_assoc]

end Queue

/-! ## §4 Isolation -/

/-- A dump with this answer to its request can come out like this when it finds `queue`. -/
def Outcome (strerror : Int → Bytes) (target : Target) (sequence : Nat) (queue : List Received)
    (own : KernelAnswer) (r : Result (List SocketInfo)) : Prop :=
  ∃ datagrams log w', sockDiag.Runs (one strerror datagrams target.2 target.1 sequence)
    ⟨queue, [own]⟩ log r w'

section Isolation

variable {strerror : Int → Bytes}

theorem length_dumpRequest (family : AddressFamily) (protocol : TransportProtocol) (sequence : Nat) :
    (dumpRequest family protocol sequence).length = 72 := by
  simp [dumpRequest, buildInetDiagRequest]

/-- The answer of a kernel that has nothing to report. -/
def doneAnswer (sequence : Nat) : KernelAnswer where
  sent := ⟨⟨72, 0⟩, sent_uninterrupted⟩
  datagrams := [.ok (doneDatagram sequence)]

theorem doneAnswer_sent (target : Target) (sequence number : Nat) :
    ¬ Unsent (target.request number) (doneAnswer sequence).sent.val := by
  simp [Unsent, Target.request, length_dumpRequest, doneAnswer]

theorem doneAnswer_answered {target : Target} {sequence : Nat} (h : sequence < 2 ^ 32) :
    Answered target sequence (doneAnswer sequence) := by
  intro _
  refine ⟨by simp [doneAnswer], fun x hx data hdata => ?_⟩
  obtain rfl := List.mem_singleton.mp hx
  cases hdata
  have hheader : readHeader (doneDatagram sequence).val = ⟨20, nlmsgDone, 0, sequence⟩ :=
    readHeader_doneMessage h
  refine ⟨?_, by rw [hheader]⟩
  change 16 ≤ 20
  omega

theorem drain_done {sequence : Nat} {protocol : TransportProtocol} (h : sequence < 2 ^ 32) :
    drain strerror sequence protocol (doneAnswer sequence).datagrams [] = some (.ok [], []) := by
  have hparsed : parseInetDiagDatagram strerror (doneDatagram sequence) sequence protocol =
      .ok { done := true } := parse_doneDatagram h
  simp only [doneAnswer, drain, hparsed]
  simp

theorem length_dumpTargets_le (query : SocketQuery) : (dumpTargets query).length ≤ 4 := by
  unfold dumpTargets
  rcases query.protocol with _ | (_ | _) <;> decide

/-- Something left in the queue makes a dump fail that would find nothing to report. -/
theorem outcome_stale {target : Target} {sequence : Nat} {queue : List Received}
    {own : KernelAnswer} {sockets : List SocketInfo} (hstale : Stale sequence queue)
    (hqueue : queue ≠ []) : ¬ Outcome strerror target sequence queue own (.ok sockets) := by
  rintro ⟨datagrams, log, w', hruns⟩
  obtain ⟨own', hanswers, hone⟩ := one_runs hruns
  rcases hone with ⟨-, -, herror⟩ | ⟨-, hdrain⟩
  · cases herror
  · obtain ⟨x, rest, rfl⟩ := List.exists_cons_of_ne_nil hqueue
    obtain ⟨earlier, hlt, hcarries⟩ := hstale x (List.mem_cons_self ..)
    have hfail : ∃ error, drain strerror sequence target.1 (x :: (rest ++ own'.datagrams)) [] =
        some (.error error, rest ++ own'.datagrams) := drain_stale hcarries (Nat.ne_of_lt hlt)
    obtain ⟨error, hfail⟩ := hfail
    dsimp only at hdrain
    rw [List.cons_append, hfail] at hdrain
    cases hdrain

theorem outcome_done {target : Target} {sequence : Nat} (h : sequence < 2 ^ 32) :
    Outcome strerror target sequence [] (doneAnswer sequence) (.ok []) := by
  have hdrain : drain strerror sequence target.1 ([] ++ (doneAnswer sequence).datagrams) [] =
      some (.ok [], []) := drain_done h
  have hruns : ∃ datagrams log, sockDiag.Runs (one strerror datagrams target.2 target.1 sequence)
      ⟨[], [doneAnswer sequence]⟩ log (.ok []) ⟨[], []⟩ :=
    exists_one_runs (doneAnswer_sent target sequence sequence) hdrain
  obtain ⟨datagrams, log, hruns⟩ := hruns
  exact ⟨datagrams, log, _, hruns⟩

/-- **Dumps are isolated** from those before them exactly if every dump before them got to
    the last datagram of its answer: then, and only then, the outcome of the next dump is
    what the kernel's answer to its own request makes it, whatever that answer is. -/
theorem dump_isolated_iff {query : SocketQuery} {prior later : List Target} {target : Target}
    (htargets : dumpTargets query = prior ++ target :: later) {answers : List KernelAnswer}
    (hanswered : ∀ dump ∈ (prior.zip answers).zipIdx 1, Answered dump.1.1 dump.2 dump.1.2)
    {datagrams : Nat} {state : DumpState}
    (h : sockDiag.Runs (runDumps strerror datagrams query prior 1 {}) ⟨[], answers⟩ log state w) :
    (∀ own, Answered target (prior.length + 1) own → ∀ r,
      (Outcome strerror target (prior.length + 1) w.queue own r ↔
        Outcome strerror target (prior.length + 1) [] own r)) ↔
    ∀ dump ∈ (prior.zip answers).zipIdx 1, ReadWhole strerror dump.1.1 dump.2 dump.1.2 := by
  obtain ⟨hstale, hqueue⟩ := runDumps_queue h (by simp [Stale]) hanswered
  have hnumber : prior.length + 1 < 2 ^ 32 := by
    have hlength := length_dumpTargets_le query
    rw [htargets, List.length_append, List.length_cons] at hlength
    omega
  rw [Nat.add_comm] at hstale
  constructor
  · intro hisolated
    by_contra hread
    have hleft : w.queue ≠ [] := fun hnil => hread (hqueue.mp hnil).2
    have hdone := (hisolated (doneAnswer (prior.length + 1)) (doneAnswer_answered hnumber) (.ok [])).mpr
      (outcome_done hnumber)
    exact outcome_stale hstale hleft hdone
  · intro hread own _ r
    rw [hqueue.mpr ⟨rfl, hread⟩]

/-- A loop over one dump. -/
theorem exists_runDumps {query : SocketQuery} {target : Target} {own : KernelAnswer}
    {r : Result (List SocketInfo)} {left : List Received}
    (hsent : ¬ Unsent (target.request 1) own.sent.val)
    (h : drain strerror 1 target.1 own.datagrams [] = some (r, left)) :
    ∃ datagrams log state, sockDiag.Runs (runDumps strerror datagrams query [target] 1 {})
      ⟨[], [own]⟩ log state ⟨left, []⟩ := by
  have hruns : ∃ datagrams log, sockDiag.Runs (one strerror datagrams target.2 target.1 1)
      ⟨[], [own]⟩ log r ⟨left, []⟩ := exists_one_runs hsent h
  obtain ⟨datagrams, log, hruns⟩ := hruns
  refine ⟨datagrams, log, DumpState.record query {} target.1 r,
    runs_bind_iff.mpr ⟨r, log, [], _, (List.append_nil log).symm, hruns, ?_⟩⟩
  exact runs_ret_iff.mpr ⟨rfl, rfl, rfl⟩

end Isolation

/-- The first dump finds nothing and reads the end of its answer: the second is on its own. -/
theorem dump_isolated_after_done : ∃ datagrams log state w,
    sockDiag.Runs (runDumps (fun _ => []) datagrams { protocol := some .tcp } [(.tcp, .ipv4)] 1 {})
      ⟨[], [doneAnswer 1]⟩ log state w ∧
    ∀ own, Answered (.tcp, .ipv6) 2 own → ∀ r,
      (Outcome (fun _ => []) (.tcp, .ipv6) 2 w.queue own r ↔
        Outcome (fun _ => []) (.tcp, .ipv6) 2 [] own r) := by
  obtain ⟨datagrams, log, state, hruns⟩ :=
    exists_runDumps (doneAnswer_sent (.tcp, .ipv4) 1 1) (drain_done (by decide))
  refine ⟨datagrams, log, state, _, hruns, ?_⟩
  have hanswered : ∀ dump ∈ ([((.tcp, .ipv4) : Target)].zip [doneAnswer 1]).zipIdx 1,
      Answered dump.1.1 dump.2 dump.1.2 := by
    intro dump hdump
    obtain rfl := List.mem_singleton.mp hdump
    exact doneAnswer_answered (by decide)
  have htargets : dumpTargets { protocol := some .tcp } =
      [((.tcp, .ipv4) : Target)] ++ (.tcp, .ipv6) :: [] := rfl
  refine (dump_isolated_iff htargets hanswered hruns).mpr ?_
  intro dump hdump _ x hx
  obtain rfl := List.mem_singleton.mp hdump
  cases hx

/-- `ENOBUFS`: the kernel dropped part of its answer. -/
def lossyAnswer : KernelAnswer where
  sent := ⟨⟨72, 0⟩, sent_uninterrupted⟩
  datagrams := [.error ⟨105, Errno.enobufs_ne_eintr⟩, .ok (doneDatagram 1)]

/-- The first dump fails on a lost datagram and leaves the end of its answer in the queue. The
    second one, which would find nothing to report, fails on it. -/
theorem failed_dump_spoils_next : ∃ datagrams log state w,
    sockDiag.Runs (runDumps (fun _ => []) datagrams { protocol := some .tcp } [(.tcp, .ipv4)] 1 {})
      ⟨[], [lossyAnswer]⟩ log state w ∧
    Answered (.tcp, .ipv4) 1 lossyAnswer ∧ Answered (.tcp, .ipv6) 2 (doneAnswer 2) ∧
    Outcome (fun _ => []) (.tcp, .ipv6) 2 [] (doneAnswer 2) (.ok []) ∧
    ¬ Outcome (fun _ => []) (.tcp, .ipv6) 2 w.queue (doneAnswer 2) (.ok []) := by
  have hdrain : drain (fun _ => []) 1 .tcp lossyAnswer.datagrams [] =
      some (.error (socketError (fun _ => []) "receive sock-diag response" 105),
        [.ok (doneDatagram 1)]) := rfl
  have hsent : ¬ Unsent (Target.request (.tcp, .ipv4) 1) lossyAnswer.sent.val :=
    doneAnswer_sent (.tcp, .ipv4) 1 1
  obtain ⟨datagrams, log, state, hruns⟩ := exists_runDumps hsent hdrain
  have hdone : Answered (.tcp, .ipv4) 1 (doneAnswer 1) := doneAnswer_answered (by decide)
  have hcarries : Carries 1 (.ok (doneDatagram 1)) :=
    (hdone (doneAnswer_sent _ 1 1)).2 _ (List.mem_singleton.mpr rfl)
  refine ⟨datagrams, log, state, _, hruns, ?_, doneAnswer_answered (by decide),
    outcome_done (by decide), outcome_stale ?_ (by simp)⟩
  · intro _
    refine ⟨by simp [lossyAnswer], fun x hx => ?_⟩
    rcases List.mem_pair.mp hx with rfl | rfl
    · intro data hdata
      cases hdata
    · exact hcarries
  · intro x hx
    obtain rfl := List.mem_singleton.mp hx
    exact ⟨1, by decide, hcarries⟩

end Lx.Netlink
