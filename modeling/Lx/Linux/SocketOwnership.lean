import Lx.Linux.SocketInodeResolver
import Lx.Application.PortInspection

/-!
# What the owners of a socket are

`SocketInodeResolver` reads a tree of directories and links, and files that come and go
are skipped. Here the tree is given, with the error every access to it meets, and the
result of the scan is compared with the relation "this process holds this socket" that can
be read off the tree.

## Layers

- The tree and the relation (§1), and the texts the scan recognises (§2).
- The table of owners, entry by entry (§3).
- The scan: descriptors of one process, then all processes (§4).
- The resolved ownership is that relation (§5).
-/

namespace Lx.SocketInodeResolver

open Interaction

/-! ## §1 Trees -/

/-- The contents of the procfs root, as far as the scan reads it: what iterating over the
    root, over the `fd` directory of an entry, and reading a link lead to. -/
structure ProcTree where
  root : Except Errno Listing
  fd : Bytes → Except Errno Listing
  link : Bytes → Bytes → Except Errno Bytes

/-- The event got the answer the tree has for it. -/
def ProcTree.Answers (tree : ProcTree) : Event Sys → Prop
  | ⟨.rootDirectory, answer⟩ => answer = tree.root
  | ⟨.fdDirectory entry, answer⟩ => answer = tree.fd entry
  | ⟨.fdLink entry descriptor, answer⟩ => answer = tree.link entry descriptor
  | _ => True

/-- The name of an entry is a decimal numeral of this PID. -/
def NamesPid (name : Bytes) (pid : Int) : Prop :=
  ∃ n : Nat, Bytes.decimal name = some n ∧ 1 ≤ n ∧ n ≤ 2 ^ 31 - 1 ∧ pid = n

/-- The link leads to `socket:[n]`, with `n` a decimal numeral of this inode. -/
def LeadsTo (target : Bytes) (inode : Nat) : Prop :=
  ∃ digits, target = Bytes.ofString "socket:[" ++ digits ++ Bytes.ofString "]" ∧
    Bytes.decimal digits = some inode

/-- The process has a descriptor that leads to the inode, under one of its entries. -/
def ProcTree.Holds (tree : ProcTree) (pid : Int) (inode : Nat) : Prop :=
  ∃ listing entry, tree.root = .ok listing ∧ entry ∈ listing.entries ∧ NamesPid entry pid ∧
    ∃ descriptors descriptor target, tree.fd entry = .ok descriptors ∧
      descriptor ∈ descriptors.entries ∧ tree.link entry descriptor = .ok target ∧
      LeadsTo target inode

/-- The access was denied: opening a directory, going on in it, or reading a link. -/
def Denied : Event Sys → Prop
  | ⟨.fdDirectory _, .error errno⟩ => denied errno = true
  | ⟨.fdDirectory _, .ok listing⟩ => ∃ errno, listing.failure = some errno ∧ denied errno = true
  | ⟨.fdLink _ _, .error errno⟩ => denied errno = true
  | ⟨.rootDirectory, .error errno⟩ => denied errno = true
  | ⟨.rootDirectory, .ok listing⟩ => ∃ errno, listing.failure = some errno ∧ denied errno = true
  | _ => False

/-! ## §2 Texts -/

theorem parsePid_eq_some_iff {name : Bytes} {pid : Int} :
    parsePid name = some pid ↔ NamesPid name pid := by
  unfold parsePid NamesPid
  cases hdecimal : Bytes.decimal name with
  | none => simp [Bytes.fromChars, hdecimal]
  | some n =>
    -- `from_chars` reads 64 bits; the range of a PID is checked after it
    by_cases hfit : n < 2 ^ 64
    · rw [Bytes.fromChars_of_lt hdecimal hfit]
      dsimp only
      by_cases hrange : n = 0 ∨ 2 ^ 31 ≤ n
      · rw [if_pos hrange]
        constructor
        · intro h
          cases h
        · rintro ⟨m, hm, hlow, hhigh, -⟩
          obtain rfl := Option.some.inj hm
          omega
      · rw [if_neg hrange]
        constructor
        · intro h
          exact ⟨n, rfl, by omega, by omega, (Option.some.inj h).symm⟩
        · rintro ⟨m, hm, -, -, rfl⟩
          obtain rfl := Option.some.inj hm
          rfl
    · rw [Bytes.fromChars_of_ge hdecimal hfit]
      constructor
      · intro h
        cases h
      · -- such a number is no PID either
        rintro ⟨m, hm, -, hhigh, -⟩
        obtain rfl := Option.some.inj hm
        omega

theorem leadsTo_iff {target : Bytes} {inode : Nat} : LeadsTo target inode ↔
    ∃ digits, target = socketPrefix ++ digits ++ [93] ∧ Bytes.decimal digits = some inode := by
  have hbracket : Bytes.ofString "]" = [93] := by decide
  unfold LeadsTo
  rw [hbracket]
  rfl

/-- Between the frame of a socket's link the parser reads a number. -/
theorem parseSocketFdTarget_framed {digits : Bytes} {inode : Nat} (hne : digits ≠ []) :
    parseSocketFdTarget (socketPrefix ++ digits ++ [93]) = .ok (some inode) ↔
      Bytes.fromChars 64 digits = some inode := by
  have hstart : socketPrefix.isPrefixOf (socketPrefix ++ digits ++ [93]) = true := by
    rw [List.isPrefixOf_iff_prefix, List.append_assoc]
    exact List.prefix_append _ _
  have hpositive : 0 < digits.length := List.length_pos_of_ne_nil hne
  have htotal : (socketPrefix ++ digits ++ [93]).length =
      socketPrefix.length + digits.length + 1 := by
    rw [List.length_append, List.length_append]
    rfl
  have hinner : ((socketPrefix ++ digits ++ [93]).drop socketPrefix.length).dropLast = digits := by
    rw [List.append_assoc, List.drop_left, List.dropLast_concat]
  unfold parseSocketFdTarget
  rw [hstart, if_neg (by simp), if_neg]
  · dsimp only
    rw [hinner]
    cases Bytes.fromChars 64 digits <;> simp
  · rw [not_or, not_not, List.getLast?_concat]
    exact ⟨by omega, rfl⟩

/-- No other text names an inode. -/
theorem framed_of_parseSocketFdTarget {target : Bytes} {inode : Nat}
    (h : parseSocketFdTarget target = .ok (some inode)) :
    ∃ digits, digits ≠ [] ∧ target = socketPrefix ++ digits ++ [93] := by
  unfold parseSocketFdTarget at h
  split_ifs at h with hother hmalformed
  · cases h
  · obtain ⟨rest, rfl⟩ : socketPrefix <+: target := by
      rw [← List.isPrefixOf_iff_prefix]
      simpa using hother
    rw [not_or, not_not] at hmalformed
    obtain ⟨hlength, hlast⟩ := hmalformed
    -- the last character belongs to what follows `socket:[`
    rcases List.eq_nil_or_concat rest with rfl | ⟨digits, last, hrest⟩
    · simp at hlength
    · rw [List.concat_eq_append] at hrest
      subst hrest
      rw [← List.append_assoc, List.getLast?_concat] at hlast
      obtain rfl := Option.some.inj hlast
      refine ⟨digits, ?_, (List.append_assoc _ _ _).symm⟩
      rintro rfl
      simp at hlength

/-- For inodes of 64 bits. -/
theorem parseSocketFdTarget_eq_iff {target : Bytes} {inode : Nat} (hinode : inode < 2 ^ 64) :
    parseSocketFdTarget target = .ok (some inode) ↔ LeadsTo target inode := by
  rw [leadsTo_iff]
  constructor
  · intro h
    obtain ⟨digits, hne, rfl⟩ := framed_of_parseSocketFdTarget h
    have hchars := (parseSocketFdTarget_framed hne).mp h
    exact ⟨digits, rfl, (Option.filter_eq_some_iff.mp hchars).1⟩
  · rintro ⟨digits, rfl, hdigits⟩
    -- a numeral has a digit
    have hne : digits ≠ [] := by
      rintro rfl
      cases hdigits
    exact (parseSocketFdTarget_framed hne).mpr (Bytes.fromChars_of_lt hdigits hinode)

/-! ## §3 The table of owners -/

/-- The process stands in the entry of the inode. -/
def Owns (ownership : SocketOwnership) (inode : Nat) (pid : Int) : Prop :=
  ∃ owners, (inode, owners) ∈ ownership ∧ pid ∈ owners

/-- Every inode has one entry, and an owner in it. -/
structure Tidy (ownership : SocketOwnership) : Prop where
  nodup : (ownership.map Prod.fst).Nodup
  owned : ∀ inode owners, (inode, owners) ∈ ownership → owners ≠ []

theorem tidy_nil : Tidy [] := ⟨List.nodup_nil, fun _ _ h => absurd h List.not_mem_nil⟩

theorem owns_addOwner {inode inode' : Nat} {pid pid' : Int} {ownership : SocketOwnership} :
    Owns (addOwner inode pid ownership) inode' pid' ↔
      Owns ownership inode' pid' ∨ inode' = inode ∧ pid' = pid := by
  induction ownership with
  | nil => simp [addOwner, Owns]
  | cons entry rest ih =>
    obtain ⟨key, owners⟩ := entry
    unfold addOwner
    -- the entry is found here, or further down the table
    by_cases hkey : key = inode
    · rw [if_pos hkey]
      subst hkey
      simp only [Owns, List.mem_cons, Prod.mk.injEq]
      constructor
      · rintro ⟨owners', ⟨rfl, rfl⟩ | hrest, hpid⟩
        · rcases List.mem_append.mp hpid with hpid | hpid
          · exact .inl ⟨owners, .inl ⟨rfl, rfl⟩, hpid⟩
          · exact .inr ⟨rfl, List.mem_singleton.mp hpid⟩
        · exact .inl ⟨owners', .inr hrest, hpid⟩
      · rintro (⟨owners', ⟨rfl, rfl⟩ | hrest, hpid⟩ | ⟨rfl, rfl⟩)
        · exact ⟨_, .inl ⟨rfl, rfl⟩, List.mem_append_left _ hpid⟩
        · exact ⟨owners', .inr hrest, hpid⟩
        · exact ⟨_, .inl ⟨rfl, rfl⟩, List.mem_append_right _ (List.mem_singleton_self _)⟩
    · rw [if_neg hkey]
      have hcons : ∀ table : SocketOwnership, Owns ((key, owners) :: table) inode' pid' ↔
          (inode' = key ∧ pid' ∈ owners) ∨ Owns table inode' pid' := by
        intro table
        simp [Owns, or_and_right, exists_or]
      rw [hcons, hcons, ih, or_assoc]

theorem map_fst_addOwner {inode : Nat} {pid : Int} {ownership : SocketOwnership} :
    (addOwner inode pid ownership).map Prod.fst =
      if inode ∈ ownership.map Prod.fst then ownership.map Prod.fst
      else ownership.map Prod.fst ++ [inode] := by
  induction ownership with
  | nil => rfl
  | cons entry rest ih =>
    obtain ⟨key, owners⟩ := entry
    unfold addOwner
    by_cases hkey : key = inode
    · simp [hkey]
    · have hne : inode ≠ key := fun h => hkey h.symm
      rw [if_neg hkey, List.map_cons, List.map_cons, ih]
      by_cases hmem : inode ∈ rest.map Prod.fst
      · rw [if_pos hmem, if_pos (List.mem_cons_of_mem _ hmem)]
      · rw [if_neg hmem, if_neg (by simpa [hne] using hmem)]
        rfl

theorem Tidy.addOwner {inode : Nat} {pid : Int} {ownership : SocketOwnership} (h : Tidy ownership) :
    Tidy (addOwner inode pid ownership) := by
  constructor
  · rw [map_fst_addOwner]
    split
    · exact h.nodup
    · -- a new key goes to the end
      rename_i hfresh
      exact List.nodup_append.mpr ⟨h.nodup, List.nodup_singleton _, fun key hkey other hother heq =>
        hfresh (by rwa [← List.mem_singleton.mp hother, ← heq])⟩
  · have howned := h.owned
    clear h
    -- no entry ever loses an owner
    induction ownership with
    | nil =>
      intro key owners hmem
      obtain ⟨rfl, rfl⟩ := Prod.mk.inj (List.mem_singleton.mp hmem)
      exact List.cons_ne_nil _ _
    | cons entry rest ih =>
      obtain ⟨key, owners⟩ := entry
      intro key' owners' hmem
      unfold SocketInodeResolver.addOwner at hmem
      have hrest : ∀ inode owners, (inode, owners) ∈ rest → owners ≠ [] :=
        fun inode owners hmem => howned inode owners (List.mem_cons_of_mem _ hmem)
      split at hmem
      · rcases List.mem_cons.mp hmem with heq | hmem
        · obtain ⟨-, rfl⟩ := Prod.mk.inj heq
          simp
        · exact hrest key' owners' hmem
      · rcases List.mem_cons.mp hmem with heq | hmem
        · obtain ⟨rfl, rfl⟩ := Prod.mk.inj heq
          exact howned _ _ List.mem_cons_self
        · exact ih hrest key' owners' hmem

/-! ## §4 The scan -/

/-- What the errors of a scan leave behind. -/
theorem count_ownership (state : ScanState) (errno : Errno) :
    (state.count errno).ownership = state.ownership := by
  unfold ScanState.count
  split_ifs <;> rfl

theorem count_deniedCount (state : ScanState) (errno : Errno) :
    (state.count errno).deniedCount ≠ 0 ↔ state.deniedCount ≠ 0 ∨ denied errno = true := by
  unfold ScanState.count
  by_cases hdenied : denied errno = true
  · rw [if_pos hdenied]
    simp [hdenied]
  · rw [if_neg hdenied]
    split_ifs <;> simp [hdenied]

theorem countFailure_ownership (state : ScanState) (failure : Option Errno) :
    (state.countFailure failure).ownership = state.ownership := by
  cases failure with
  | none => rfl
  | some errno => exact count_ownership state errno

theorem countFailure_deniedCount (state : ScanState) (failure : Option Errno) :
    (state.countFailure failure).deniedCount ≠ 0 ↔
      state.deniedCount ≠ 0 ∨ ∃ errno, failure = some errno ∧ denied errno = true := by
  cases failure with
  | none => simp [ScanState.countFailure]
  | some errno => simpa [ScanState.countFailure] using count_deniedCount state errno

/-- What a part of the scan does to the variables: it adds the owners in `Found`, and it
    counts the accesses that were denied. -/
structure Scanned (Found : Nat → Int → Prop) (t : Trace Sys) (state final : ScanState) : Prop where
  owns : ∀ inode pid, Owns final.ownership inode pid ↔
    Owns state.ownership inode pid ∨ Found inode pid
  tidy : Tidy state.ownership → Tidy final.ownership
  denied : final.deniedCount ≠ 0 ↔ state.deniedCount ≠ 0 ∨ ∃ e ∈ t, Denied e

namespace Scanned

variable {Found Found' : Nat → Int → Prop} {t t' : Trace Sys} {state middle final : ScanState}

theorem refl : Scanned (fun _ _ => False) [] state state :=
  ⟨fun _ _ => by simp, id, by simp⟩

theorem trans (h : Scanned Found t state middle) (h' : Scanned Found' t' middle final) :
    Scanned (fun inode pid => Found inode pid ∨ Found' inode pid) (t ++ t') state final where
  owns inode pid := by rw [h'.owns, h.owns, or_assoc]
  tidy htidy := h'.tidy (h.tidy htidy)
  denied := by
    rw [h'.denied, h.denied, or_assoc]
    simp only [List.mem_append, or_and_right, exists_or]

theorem congr (h : Scanned Found t state final)
    (hfound : ∀ inode pid, Found inode pid ↔ Found' inode pid) : Scanned Found' t state final :=
  ⟨fun inode pid => by rw [h.owns, hfound], h.tidy, h.denied⟩

/-- An access that adds no owner. -/
theorem of_count {e : Event Sys} (hownership : final.ownership = state.ownership)
    (hdenied : final.deniedCount ≠ 0 ↔ state.deniedCount ≠ 0 ∨ Denied e) :
    Scanned (fun _ _ => False) [e] state final where
  owns _ _ := by rw [hownership, or_false]
  tidy htidy := hownership ▸ htidy
  denied := by simpa using hdenied

end Scanned

section Scan

variable {tree : ProcTree} {targets : List Nat} {t : Trace Sys} {state final : ScanState}

/-- One of these descriptors leads to a requested inode. -/
def FoundUnder (tree : ProcTree) (targets : List Nat) (entry : Bytes) (descriptors : List Bytes)
    (inode : Nat) : Prop :=
  inode ∈ targets ∧ ∃ descriptor ∈ descriptors, ∃ target,
    tree.link entry descriptor = .ok target ∧ parseSocketFdTarget target = .ok (some inode)

/-- The variables after a link was read. -/
def ScanState.linked (state : ScanState) (targets : List Nat) (pid : Int) (target : Bytes) :
    ScanState :=
  match parseSocketFdTarget target with
  | .ok (some inode) =>
    if inode ∈ targets then { state with ownership := addOwner inode pid state.ownership }
    else state
  | _ => state

theorem linked_of_mem {pid : Int} {target : Bytes} {inode : Nat}
    (hparsed : parseSocketFdTarget target = .ok (some inode)) (htarget : inode ∈ targets) :
    state.linked targets pid target =
      { state with ownership := addOwner inode pid state.ownership } := by
  unfold ScanState.linked
  rw [hparsed]
  exact if_pos htarget

theorem linked_of_not {pid : Int} {target : Bytes}
    (h : ∀ inode ∈ targets, parseSocketFdTarget target ≠ .ok (some inode)) :
    state.linked targets pid target = state := by
  unfold ScanState.linked
  split
  · rename_i inode hparsed
    exact if_neg fun htarget => h inode htarget hparsed
  · rfl

/-- A link that can be read adds an owner if it leads to a requested inode. -/
theorem scanned_linked {entry descriptor target : Bytes} {pid : Int} :
    Scanned (fun inode p => p = pid ∧ inode ∈ targets ∧
      parseSocketFdTarget target = .ok (some inode)) [⟨.fdLink entry descriptor, .ok target⟩]
      state (state.linked targets pid target) := by
  -- a text parses to one inode at most
  by_cases h : ∃ inode ∈ targets, parseSocketFdTarget target = .ok (some inode)
  · obtain ⟨inode, htarget, hparsed⟩ := h
    rw [linked_of_mem hparsed htarget]
    refine ⟨fun inode' p => ?_, Tidy.addOwner, by simp [Denied]⟩
    rw [owns_addOwner]
    apply or_congr_right
    constructor
    · rintro ⟨rfl, rfl⟩
      exact ⟨rfl, htarget, hparsed⟩
    · rintro ⟨rfl, -, heq⟩
      exact ⟨(Option.some.inj (Except.ok.inj (hparsed.symm.trans heq))).symm, rfl⟩
  · have hnone : ∀ inode ∈ targets, parseSocketFdTarget target ≠ .ok (some inode) :=
      fun inode htarget hparsed => h ⟨inode, htarget, hparsed⟩
    rw [linked_of_not hnone]
    apply (Scanned.of_count rfl (by simp [Denied])).congr
    intro inode p
    constructor
    · exact False.elim
    · rintro ⟨-, htarget, hparsed⟩
      exact hnone inode htarget hparsed

/-- The descriptors of one process. -/
theorem scanDescriptors_run {entry : Bytes} {pid : Int} {descriptors : List Bytes}
    (h : (scanDescriptors targets entry pid descriptors state).Run t final)
    (htree : ∀ e ∈ t, tree.Answers e) :
    Scanned (fun inode p => p = pid ∧ FoundUnder tree targets entry descriptors inode) t
      state final := by
  induction descriptors generalizing t state with
  | nil =>
    obtain ⟨rfl, rfl⟩ := h
    apply Scanned.refl.congr
    simp [FoundUnder]
  | cons descriptor rest ih =>
    obtain ⟨answer, t₁, t₂, hlink, hk, rfl⟩ := Prog.run_bind_iff.mp h
    obtain rfl := Prog.run_perform.mp hlink
    have hanswer : answer = tree.link entry descriptor :=
      htree ⟨.fdLink entry descriptor, answer⟩ (by simp)
    have hrest : ∀ e ∈ t₂, tree.Answers e := fun e he => htree e (by simp [he])
    cases answer with
    -- a link that is gone or closed to us: counted, and the scan goes on
    | error errno =>
      have hcount : Scanned (fun _ _ => False) [⟨.fdLink entry descriptor, .error errno⟩] state
          (state.count errno) :=
        Scanned.of_count (count_ownership state errno) (count_deniedCount state errno)
      apply (hcount.trans (ih hk hrest)).congr
      intro inode p
      simp [FoundUnder, ← hanswer]
    | ok target =>
      -- in every case the scan goes on with the state of `linked`
      have hscan : (scanDescriptors targets entry pid rest
          (state.linked targets pid target)).Run t₂ final := by
        unfold ScanState.linked
        cases hparsed : parseSocketFdTarget target with
        | error error => simpa only [hparsed] using hk
        | ok found =>
          cases found with
          | none => simpa only [hparsed] using hk
          | some inode =>
            by_cases htarget : inode ∈ targets <;>
              simpa only [hparsed, htarget, if_true, if_false] using hk
      apply (scanned_linked.trans (ih hscan hrest)).congr
      intro inode p
      simp only [FoundUnder, List.exists_mem_cons_iff, ← hanswer, Except.ok.injEq, exists_eq_left']
      tauto

/-- All entries of the root. -/
theorem scanProcesses_run {entries : List Bytes}
    (h : (scanProcesses targets entries state).Run t final) (htree : ∀ e ∈ t, tree.Answers e) :
    Scanned (fun inode pid => ∃ entry ∈ entries, parsePid entry = some pid ∧
      ∃ descriptors, tree.fd entry = .ok descriptors ∧
        FoundUnder tree targets entry descriptors.entries inode) t state final := by
  induction entries generalizing t state with
  | nil =>
    obtain ⟨rfl, rfl⟩ := h
    apply Scanned.refl.congr
    simp
  | cons entry rest ih =>
    unfold scanProcesses at h
    cases hpid : parsePid entry with
    -- an entry that is no process
    | none =>
      rw [hpid] at h
      apply (ih h htree).congr
      intro inode pid
      simp [hpid]
    | some pid =>
      rw [hpid] at h
      obtain ⟨answer, t₁, t₂, hopen, hk, rfl⟩ := Prog.run_bind_iff.mp h
      obtain rfl := Prog.run_perform.mp hopen
      have hanswer : answer = tree.fd entry := htree ⟨.fdDirectory entry, answer⟩ (by simp)
      have hrest : ∀ e ∈ t₂, tree.Answers e := fun e he => htree e (by simp [he])
      cases answer with
      | error errno =>
        have hcount : Scanned (fun _ _ => False) [⟨.fdDirectory entry, .error errno⟩] state
            (state.count errno) :=
          Scanned.of_count (count_ownership state errno) (count_deniedCount state errno)
        apply (hcount.trans (ih hk hrest)).congr
        intro inode p
        simp [hpid, ← hanswer]
      | ok descriptors =>
        obtain ⟨middle, t₃, t₄, hscan, hothers, rfl⟩ := Prog.run_bind_iff.mp hk
        -- the listing may break off: what it listed before is scanned all the same
        have hcount : Scanned (fun _ _ => False) [⟨.fdDirectory entry, .ok descriptors⟩] state
            (state.countFailure descriptors.failure) :=
          Scanned.of_count (countFailure_ownership state _) (countFailure_deniedCount state _)
        have hfound := scanDescriptors_run hscan fun e he => hrest e (List.mem_append_left _ he)
        have hlater := ih hothers fun e he => hrest e (List.mem_append_right _ he)
        apply (hcount.trans (hfound.trans hlater)).congr
        intro inode p
        simp only [List.exists_mem_cons_iff, hpid, ← hanswer, Except.ok.injEq, Option.some.injEq,
          exists_eq_left', false_or]
        apply or_congr_left
        rw [eq_comm]

end Scan

/-! ## §5 The resolved ownership -/

theorem mem_normalizeOwners {ownership : SocketOwnership} {inode : Nat} {owners : List Int} :
    (inode, owners) ∈ normalizeOwners ownership ↔ ∃ found, (inode, found) ∈ ownership ∧
      owners = PortService.unique (found.insertionSort (· ≤ ·)) := by
  unfold normalizeOwners
  rw [List.mem_map]
  constructor
  · rintro ⟨⟨key, found⟩, hmem, heq⟩
    obtain ⟨rfl, rfl⟩ := Prod.mk.inj heq
    exact ⟨found, hmem, rfl⟩
  · rintro ⟨found, hmem, rfl⟩
    exact ⟨(inode, found), hmem, rfl⟩

theorem map_fst_normalizeOwners (ownership : SocketOwnership) :
    (normalizeOwners ownership).map Prod.fst = ownership.map Prod.fst := by
  unfold normalizeOwners
  rw [List.map_map]
  rfl

/-- An entry of a tidy table lists the owners of its inode. -/
theorem Tidy.mem_iff {ownership : SocketOwnership} (h : Tidy ownership) {inode : Nat}
    {owners : List Int} (hmem : (inode, owners) ∈ ownership) {pid : Int} :
    pid ∈ owners ↔ Owns ownership inode pid := by
  constructor
  · intro hpid
    exact ⟨owners, hmem, hpid⟩
  · rintro ⟨owners', hmem', hpid⟩
    rwa [List.inj_on_of_nodup_map h.nodup hmem hmem' rfl |> Prod.mk.inj |>.2]

theorem Tidy.mem_keys_iff {ownership : SocketOwnership} (h : Tidy ownership) {inode : Nat} :
    inode ∈ ownership.map Prod.fst ↔ ∃ pid, Owns ownership inode pid := by
  constructor
  · intro hmem
    obtain ⟨⟨key, owners⟩, hentry, rfl⟩ := List.mem_map.mp hmem
    obtain ⟨pid, hpid⟩ := List.exists_mem_of_ne_nil owners (h.owned key owners hentry)
    exact ⟨pid, owners, hentry, hpid⟩
  · rintro ⟨pid, owners, hentry, -⟩
    exact List.mem_map.mpr ⟨(inode, owners), hentry, rfl⟩

/-- Only denied accesses lead to a warning about permissions. -/
theorem exists_denied_warning_iff {state : ScanState} :
    (∃ warning ∈ scanWarnings state, warning.code = .permissionDenied) ↔ state.deniedCount ≠ 0 := by
  unfold scanWarnings
  by_cases hdenied : state.deniedCount = 0 <;> by_cases hunreadable : state.unreadableCount = 0 <;>
    simp [hdenied, hunreadable]

/-- The inodes a request asks for: zero stands for "none". -/
def requested (inodes : List UInt64) : List Nat := (inodes.map UInt64.toNat).filter (· ≠ 0)

theorem mem_requested {inodes : List UInt64} {inode : Nat} :
    inode ∈ requested inodes ↔ inode ≠ 0 ∧ inode ∈ inodes.map UInt64.toNat := by
  simp [requested, and_comm]

/-- What the scan finds is what the tree holds, as far as it was asked for. -/
theorem found_iff_holds {tree : ProcTree} {inodes : List UInt64} {listing : Listing}
    (hroot : tree.root = .ok listing) {inode : Nat} {pid : Int} :
    (∃ entry ∈ listing.entries, parsePid entry = some pid ∧ ∃ descriptors,
      tree.fd entry = .ok descriptors ∧
        FoundUnder tree (requested inodes) entry descriptors.entries inode) ↔
      inode ∈ requested inodes ∧ tree.Holds pid inode := by
  -- requests are `uint64_t`, so no numeral of one overflows
  have hfits : inode ∈ requested inodes → inode < 2 ^ 64 := by
    intro hmem
    obtain ⟨number, -, rfl⟩ := List.mem_map.mp (mem_requested.mp hmem).2
    exact number.toNat_lt
  constructor
  · rintro ⟨entry, hentry, hpid, descriptors, hfd, hmem, descriptor, hdescriptor, target, hlink,
      hparsed⟩
    exact ⟨hmem, listing, entry, hroot, hentry, parsePid_eq_some_iff.mp hpid, descriptors,
      descriptor, target, hfd, hdescriptor, hlink, (parseSocketFdTarget_eq_iff (hfits hmem)).mp hparsed⟩
  · rintro ⟨hmem, listing', entry, hroot', hentry, hpid, descriptors, descriptor, target, hfd,
      hdescriptor, hlink, hleads⟩
    rw [hroot] at hroot'
    obtain rfl := Except.ok.inj hroot'
    exact ⟨entry, hentry, parsePid_eq_some_iff.mpr hpid, descriptors, hfd, hmem, descriptor,
      hdescriptor, target, hlink, (parseSocketFdTarget_eq_iff (hfits hmem)).mpr hleads⟩

/-- The outcomes of a successful run: nothing was asked for, or the root was scanned. -/
theorem resolve_ok {strerror : Int → Bytes} {inodes : List UInt64} {tree : ProcTree}
    {t : Trace Sys} {observed : Observation SocketOwnership}
    (h : (resolve strerror (inodes.map UInt64.toNat)).Run t (.ok observed))
    (htree : ∀ e ∈ t, tree.Answers e) :
    ∃ final, Scanned (fun inode pid => inode ∈ requested inodes ∧ tree.Holds pid inode) t {} final ∧
      observed = ⟨normalizeOwners final.ownership, scanWarnings final⟩ := by
  unfold resolve at h
  change Prog.Run (if (requested inodes).isEmpty then _ else _) t _ at h
  by_cases hempty : (requested inodes).isEmpty = true
  · rw [if_pos hempty] at h
    obtain ⟨rfl, hobserved⟩ := h
    -- nothing to look for: the root is not even opened
    refine ⟨{}, Scanned.refl.congr fun inode pid => ?_, Except.ok.inj hobserved⟩
    simp [List.isEmpty_iff.mp hempty]
  · rw [if_neg hempty] at h
    obtain ⟨answer, t₁, t₂, hopen, hk, rfl⟩ := Prog.run_bind_iff.mp h
    obtain rfl := Prog.run_perform.mp hopen
    have hanswer : answer = tree.root := htree ⟨.rootDirectory, answer⟩ (by simp)
    cases answer with
    | error errno =>
      obtain ⟨-, herror⟩ := hk
      cases herror
    | ok listing =>
      obtain ⟨final, t₃, t₄, hscan, ⟨rfl, hobserved⟩, rfl⟩ := Prog.run_bind_iff.mp hk
      have hstart : Scanned (fun _ _ => False) [⟨.rootDirectory, .ok listing⟩] {}
          (ScanState.countFailure {} listing.failure) :=
        Scanned.of_count (countFailure_ownership _ _) (countFailure_deniedCount _ _)
      have hfound := scanProcesses_run hscan fun e he => htree e (by simp [he])
      refine ⟨final, ?_, Except.ok.inj hobserved⟩
      rw [List.append_nil]
      apply (hstart.trans hfound).congr
      intro inode pid
      rw [false_or]
      exact found_iff_holds hanswer.symm

/-- **Ownership is resolved exactly.** Whatever the tree contains and in whatever order: the keys
    are the requested inodes some process holds, the owners of a key are its holders in
    ascending order, and a warning about permissions says that some access was denied. -/
theorem resolve_exact {strerror : Int → Bytes} (inodes : List UInt64) (tree : ProcTree)
    (t : Trace Sys) (observed : Observation SocketOwnership)
    (h : (resolve strerror (inodes.map UInt64.toNat)).Run t (.ok observed))
    (htree : ∀ e ∈ t, tree.Answers e) :
    (∀ inode, inode ∈ observed.value.map Prod.fst ↔
      inode ≠ 0 ∧ inode ∈ inodes.map UInt64.toNat ∧ ∃ pid, tree.Holds pid inode) ∧
    (observed.value.map Prod.fst).Nodup ∧
    (∀ inode owners, (inode, owners) ∈ observed.value →
      owners.Pairwise (· < ·) ∧ ∀ pid, pid ∈ owners ↔ tree.Holds pid inode) ∧
    ((∃ warning ∈ observed.warnings, warning.code = .permissionDenied) ↔ ∃ e ∈ t, Denied e) := by
  obtain ⟨final, hscanned, rfl⟩ := resolve_ok h htree
  have htidy : Tidy final.ownership := hscanned.tidy tidy_nil
  have howns : ∀ inode pid, Owns final.ownership inode pid ↔
      inode ∈ requested inodes ∧ tree.Holds pid inode := by
    intro inode pid
    rw [hscanned.owns]
    simp [Owns]
  dsimp only
  rw [map_fst_normalizeOwners]
  refine ⟨fun inode => ?_, htidy.nodup, fun inode owners hmem => ?_, ?_⟩
  · rw [htidy.mem_keys_iff]
    simp only [howns, exists_and_left, mem_requested, and_assoc]
  · obtain ⟨found, hentry, rfl⟩ := mem_normalizeOwners.mp hmem
    refine ⟨PortService.unique_ascending (List.pairwise_insertionSort _ _), fun pid => ?_⟩
    -- the inode is a key, so it was asked for
    obtain ⟨some_pid, hsome⟩ := htidy.mem_keys_iff.mp (List.mem_map.mpr ⟨_, hentry, rfl⟩)
    have hasked := ((howns inode some_pid).mp hsome).1
    rw [PortService.mem_unique, List.mem_insertionSort, htidy.mem_iff hentry, howns]
    exact and_iff_right hasked
  · rw [exists_denied_warning_iff, hscanned.denied]
    simp

/-- Two processes with one socket; a descriptor of the second cannot be read. -/
def sharedTree : ProcTree where
  root := .ok ⟨[Bytes.ofString "20", Bytes.ofString "self", Bytes.ofString "10"], none⟩
  fd entry :=
    if entry = Bytes.ofString "20" then .ok ⟨[Bytes.ofString "3"], none⟩
    else if entry = Bytes.ofString "10" then .ok ⟨[Bytes.ofString "4", Bytes.ofString "5"], none⟩
    else .error Errno.enoent
  link _ descriptor :=
    if descriptor = Bytes.ofString "5" then .error Errno.eacces
    else .ok (Bytes.ofString "socket:[42]")

/-- The accesses of the scan. -/
def sharedExchange : Trace Sys :=
  [⟨.rootDirectory, sharedTree.root⟩,
    ⟨.fdDirectory (Bytes.ofString "20"), sharedTree.fd (Bytes.ofString "20")⟩,
    ⟨.fdLink (Bytes.ofString "20") (Bytes.ofString "3"), .ok (Bytes.ofString "socket:[42]")⟩,
    ⟨.fdDirectory (Bytes.ofString "10"), sharedTree.fd (Bytes.ofString "10")⟩,
    ⟨.fdLink (Bytes.ofString "10") (Bytes.ofString "4"), .ok (Bytes.ofString "socket:[42]")⟩,
    ⟨.fdLink (Bytes.ofString "10") (Bytes.ofString "5"), .error Errno.eacces⟩]

theorem resolve_exact_shared :
    (resolve (fun _ => []) ([42, 0, 42].map UInt64.toNat)).Run sharedExchange
        (.ok ⟨[(42, [10, 20])], scanWarnings ⟨[(42, [20, 10])], 1, 0⟩⟩) ∧
      ∀ pid, pid ∈ ([10, 20] : List Int) ↔ sharedTree.Holds pid 42 := by
  have hrun : (resolve (fun _ => []) ([42, 0, 42].map UInt64.toNat)).Run sharedExchange
      (.ok ⟨[(42, [10, 20])], scanWarnings ⟨[(42, [20, 10])], 1, 0⟩⟩) :=
    ⟨_, _, rfl, _, _, rfl, _, _, rfl, _, _, rfl, _, _, rfl, _, _, rfl, rfl, rfl⟩
  have htree : ∀ e ∈ sharedExchange, sharedTree.Answers e := by
    simp only [sharedExchange, List.forall_mem_cons]
    exact ⟨rfl, rfl, rfl, rfl, rfl, rfl, by simp⟩
  have hexact := resolve_exact [42, 0, 42] sharedTree _ _ hrun htree
  exact ⟨hrun, (hexact.2.2.1 42 [10, 20] (by simp)).2⟩

end Lx.SocketInodeResolver
