import LineShell.Proofs.Outlets

/-!
# Who closes the files of redirections

A file that was opened for a redirection is closed by the owner of the redirection, or by whoever closes its
stream, and by nobody else. Streams are shared: a context that was derived for a command passes on the streams
that have no target, and closing what was opened for it never touches those.

## The model

A `Desk` is an account of what was done from outside: the contexts that there are, the redirections that were
opened, which of them are over, and which streams were closed by hand. A `Deed` is one thing that can be done.
What the account says of a stream is compared with what the stream does.
-/

namespace LineShell

namespace Invocation

/-- The target of a stream, if there is one. -/
def target (i : Invocation) : Stream → Option Target
  | .stdout => i.stdout
  | .stderr => i.stderr

/-- The streams that have a target, among those that were derived for the invocation. -/
def targeted (i : Invocation) (derived : Streams) : List Nat :=
  (i.stdout.map fun _ => derived.stdout).toList ++ (i.stderr.map fun _ => derived.stderr).toList

theorem mem_targeted {i : Invocation} {stream : Stream} (h : i.target stream ≠ none) (derived : Streams) :
    derived.output stream ∈ i.targeted derived := by
  obtain ⟨target, htarget⟩ := Option.ne_none_iff_exists'.1 h
  cases stream with
  | stdout =>
    have hstdout : i.stdout = some target := htarget
    simp [targeted, Streams.output, hstdout]
  | stderr =>
    have hstderr : i.stderr = some target := htarget
    simp [targeted, Streams.output, hstderr]

end Invocation

/-! ### Deriving a context -/

namespace Redirection

variable {i : Invocation} {streams derived : Streams} {r : Redirection} {failure : Failure} {world after : World}

/-- What a context is that was derived from another one. -/
structure Derives (i : Invocation) (streams derived : Streams) (r : Redirection) (world after : World) :
    Prop where
  /-- The input is the same. -/
  stdin : derived.stdin = streams.stdin
  /-- So is an output stream without a target. -/
  passed : ∀ stream, i.target stream = none → derived.output stream = streams.output stream
  /-- The redirection owns the streams that have a target, -/
  opened : r.opened = i.targeted derived
  /-- which are all different -/
  nodup : (i.targeted derived).Nodup
  /-- and new, -/
  fresh : ∀ id ∈ i.targeted derived, world.sinks.size ≤ id
  /-- and take bytes to open files. -/
  isOpen : ∀ id ∈ i.targeted derived, ∃ file, after.plumbing.outlets[id]? = some (.opened file true)
  /-- What was there before is there still. -/
  retains : world.plumbing.Retains after.plumbing

theorem apply_eq (i : Invocation) (streams : Streams) (world : World) :
    apply i streams world = match bind i.stdout streams.stdout world with
      | (.error failure, mid) => (.error failure, mid)
      | (.ok (stdout, first), mid) =>
        match bind i.stderr streams.stderr mid with
        | (.error failure, after) => (.error failure, ((first.forM World.close : Run PUnit) after).2)
        | (.ok (stderr, second), after) =>
          (.ok ({ streams with stdout, stderr }, { opened := first ++ second }), after) := by
  rw [apply, Run.bind_apply]
  match bind i.stdout streams.stdout world with
  | (.error failure, mid) => rfl
  | (.ok (stdout, first), mid) =>
    dsimp only
    rw [Run.bind_apply]
    match bind i.stderr streams.stderr mid with
    | (.error failure, after) => rfl
    | (.ok (stderr, second), after) => rfl

theorem derives_of_apply (h : apply i streams world = (.ok (derived, r), after)) :
    Derives i streams derived r world after := by
  rw [apply_eq] at h
  match hstdout : bind i.stdout streams.stdout world with
  | (.error failure, mid) =>
    rw [hstdout] at h
    cases h
  | (.ok (stdout, first), mid) =>
    rw [hstdout] at h
    match hstderr : bind i.stderr streams.stderr mid with
    | (.error failure, mid) =>
      simp only [hstderr] at h
      cases h
    | (.ok (stderr, second), last) =>
      simp only [hstderr] at h
      cases h
      have hfirst := binds_of_bind hstdout
      have hsecond := binds_of_bind hstderr
      have hsize : world.sinks.size ≤ mid.sinks.size := by
        rw [← world.size_outlets, ← mid.size_outlets]
        exact hfirst.retains.size_le
      have hopened : i.targeted { streams with stdout, stderr } = first ++ second := by
        rw [hfirst.owned, hsecond.owned]
        rfl
      -- The first stream is there when the second one is started.
      have hlt : ∀ id ∈ first, id < mid.sinks.size := fun id hid => by
        obtain ⟨file, hfile⟩ := hfirst.isOpen id hid
        rw [← mid.size_outlets]
        exact (Array.getElem?_eq_some_iff.1 hfile).1
      refine ⟨rfl, fun stream hnone => ?_, hopened.symm, ?_, ?_, ?_, hfirst.retains.trans hsecond.retains⟩
      · cases stream with
        | stdout => exact hfirst.passed hnone
        | stderr => exact hsecond.passed hnone
      · rw [hopened]
        refine List.nodup_append.2 ⟨?_, ?_, fun id hid id' hid' => ?_⟩
        · obtain ⟨rfl, -⟩ | ⟨rfl, -⟩ := hfirst.comes <;> simp
        · obtain ⟨rfl, -⟩ | ⟨rfl, -⟩ := hsecond.comes <;> simp
        · have := hlt id hid
          rw [hsecond.fresh id' hid']
          omega
      · rw [hopened]
        intro id hid
        obtain hid | hid := List.mem_append.1 hid
        · exact Nat.le_of_eq (hfirst.fresh id hid).symm
        · rwa [hsecond.fresh id hid]
      · rw [hopened]
        intro id hid
        obtain hid | hid := List.mem_append.1 hid
        · rw [hsecond.retains.outlets id (mid.size_outlets.symm ▸ hlt id hid)]
          exact hfirst.isOpen id hid
        · exact hsecond.isOpen id hid

theorem undisturbed_of_apply (hnumbered : world.plumbing.Numbered)
    (h : apply i streams world = (.error failure, after)) : world.Undisturbed after := by
  rw [apply_eq] at h
  match hstdout : bind i.stdout streams.stdout world with
  | (.error failure, mid) =>
    rw [hstdout] at h
    cases h
    obtain ⟨files, rfl⟩ := bind_of_error hstdout
    exact (world.noted_withFiles files).undisturbed
  | (.ok (stdout, first), mid) =>
    rw [hstdout] at h
    match hstderr : bind i.stderr streams.stderr mid with
    | (.ok (stderr, second), last) =>
      simp only [hstderr] at h
      cases h
    | (.error failure, last) =>
      simp only [hstderr] at h
      cases h
      obtain ⟨files, rfl⟩ := bind_of_error hstderr
      obtain ⟨rfl, rfl⟩ | ⟨rfl, noted, handle, hnoted, rfl⟩ := (binds_of_bind hstdout).comes
      · exact (mid.noted_withFiles files).undisturbed
      · exact hnoted.undisturbed_close hnumbered handle files

end Redirection

/-! ### The account -/

/-- An account of a redirection. -/
structure Lease where
  /-- The context that it was opened in. -/
  parent : Streams
  /-- What it was opened for. -/
  invocation : Invocation
  /-- The context that was derived. -/
  derived : Streams
  /-- What its owner holds. -/
  redirection : Redirection
  /-- Its owner has released it, or dropped it. -/
  isOver : Bool := false

/-- The streams of the files that were opened. -/
def Lease.files (lease : Lease) : List Nat := lease.invocation.targeted lease.derived

/-- An account of what was done with streams and redirections. -/
structure Desk where
  /-- The streams that everything started from. -/
  base : Streams
  /-- The redirections that were opened. -/
  leases : List Lease := []
  /-- The streams that were closed by hand. -/
  shut : List Nat := []

/-- One thing that can be done; contexts and redirections are named by their places in the account. -/
inductive Deed where
  /-- Derive a context. -/
  | apply (context : Nat) (i : Invocation)
  /-- Write to a stream of a context. -/
  | write (context : Nat) (stream : Stream) (bs : Bytes)
  /-- Write what is in the buffer of a stream of a context. -/
  | flush (context : Nat) (stream : Stream)
  /-- Close a stream of a context. -/
  | close (context : Nat) (stream : Stream)
  /-- Release a redirection. -/
  | release (place : Nat)
  /-- Drop a redirection: it is released, and nobody holds it any more. -/
  | drop (place : Nat)
  deriving DecidableEq, Repr

namespace Desk

/-- The contexts that there are. -/
def contexts (desk : Desk) : List Streams := desk.base :: desk.leases.map Lease.derived

/-- A stream of a context, if there is such a context. -/
def stream? (desk : Desk) (context : Nat) (stream : Stream) : Option Nat :=
  (desk.contexts[context]?).map (·.output stream)

/-- What the account says of a stream: it is that of a file, and either the redirection is over for which the
file was opened or the stream was closed by hand. -/
def isClosed (desk : Desk) (id : Nat) : Bool :=
  desk.leases.any fun lease => lease.files.contains id && (lease.isOver || desk.shut.contains id)

/-- The account with one more redirection. -/
def withLease (desk : Desk) (lease : Lease) : Desk := { desk with leases := desk.leases ++ [lease] }

/-- The account after a stream was closed by hand. -/
def withShut (desk : Desk) (id : Nat) : Desk := { desk with shut := id :: desk.shut }

/-- The account after a redirection was given up, of which its owner holds something else now. -/
def withoutLease (desk : Desk) (place : Nat) (lease : Lease) (redirection : Redirection) : Desk :=
  { desk with leases := desk.leases.set place { lease with redirection, isOver := true } }

/-- Do one thing and enter it. What does not exist is left alone. -/
def perform (desk : Desk) : Deed → Run Desk
  | .apply context i =>
    match desk.contexts[context]? with
    | none => return desk
    | some parent => do
      match ← Redirection.apply i parent with
      | .error _ => return desk
      | .ok (derived, redirection) => return desk.withLease { parent, invocation := i, derived, redirection }
  | .write context stream bs =>
    match desk.stream? context stream with
    | none => return desk
    | some id => do
      discard <| World.write id bs
      return desk
  | .flush context stream =>
    match desk.stream? context stream with
    | none => return desk
    | some id => do
      World.flush id
      return desk
  | .close context stream =>
    match desk.stream? context stream with
    | none => return desk
    | some id => do
      World.close id
      return desk.withShut id
  | .release place =>
    match desk.leases[place]? with
    | none => return desk
    | some lease => return desk.withoutLease place lease (← lease.redirection.release)
  | .drop place =>
    match desk.leases[place]? with
    | none => return desk
    | some lease => do
      discard lease.redirection.release
      return desk.withoutLease place lease {}

/-- Do one thing after the other. -/
def performAll (desk : Desk) : List Deed → Run Desk
  | [] => return desk
  | deed :: deeds => do (← desk.perform deed).performAll deeds

theorem isClosed_iff (desk : Desk) (id : Nat) : desk.isClosed id = true ↔
    ∃ lease ∈ desk.leases, id ∈ lease.files ∧ (lease.isOver = true ∨ id ∈ desk.shut) := by
  simp [isClosed]

theorem isClosed_withLease {desk : Desk} {lease : Lease} (hlease : lease.isOver = false)
    (hshut : ∀ id ∈ desk.shut, id ∉ lease.files) (id : Nat) :
    (desk.withLease lease).isClosed id = desk.isClosed id := by
  have hopen : (lease.files.contains id && (lease.isOver || desk.shut.contains id)) = false := by
    refine Bool.eq_false_iff.2 fun hclosed => ?_
    simp only [hlease, Bool.false_or, Bool.and_eq_true, List.contains_iff_mem] at hclosed
    exact hshut id hclosed.2 hclosed.1
  simp only [isClosed, withLease, List.any_append, List.any_cons, List.any_nil, hopen, Bool.or_false]

theorem isClosed_withShut {desk : Desk} {id i : Nat} (h : id ≠ i) :
    (desk.withShut id).isClosed i = desk.isClosed i := by
  simp [isClosed, withShut, Ne.symm h]

section

variable {desk : Desk} {place : Nat} {lease : Lease} (hlease : desk.leases[place]? = some lease)
  (redirection : Redirection)

include hlease

/-- A redirection that was given up stands in its place, and all others where they were. -/
theorem mem_leases_withoutLease {old : Lease} (hold : old ∈ desk.leases) :
    old ∈ (desk.withoutLease place lease redirection).leases ∨ old = lease := by
  obtain ⟨i, hi⟩ := List.mem_iff_getElem?.1 hold
  by_cases heq : place = i
  · subst heq
    exact .inr (Option.some.inj (hi.symm.trans hlease))
  · exact .inl (List.mem_iff_getElem?.2 ⟨i, (List.getElem?_set_ne heq).trans hi⟩)

theorem lease_mem_withoutLease : { lease with redirection, isOver := true } ∈
    (desk.withoutLease place lease redirection).leases :=
  List.mem_set (List.getElem?_eq_some_iff.1 hlease).1 _

theorem map_leases_withoutLease {α : Type} {f : Lease → α}
    (hf : f { lease with redirection, isOver := true } = f lease) :
    (desk.withoutLease place lease redirection).leases.map f = desk.leases.map f := by
  obtain ⟨hlt, hget⟩ := List.getElem?_eq_some_iff.1 hlease
  rw [withoutLease, List.map_set, hf, ← hget, ← List.getElem_map f (h := by simpa using hlt),
    List.set_getElem_self]

theorem isClosed_withoutLease (id : Nat) :
    (desk.withoutLease place lease redirection).isClosed id = true ↔
      desk.isClosed id = true ∨ id ∈ lease.files := by
  simp only [isClosed_iff]
  constructor
  · rintro ⟨other, hother, hid, hwhy⟩
    obtain hold | rfl := List.mem_or_eq_of_mem_set hother
    · exact .inl ⟨other, hold, hid, hwhy⟩
    · exact .inr hid
  · rintro (⟨old, hold, hid, hwhy⟩ | hid)
    · obtain hmem | rfl := mem_leases_withoutLease hlease redirection hold
      · exact ⟨old, hmem, hid, hwhy⟩
      · exact ⟨_, lease_mem_withoutLease hlease redirection, hid, .inl rfl⟩
    · exact ⟨_, lease_mem_withoutLease hlease redirection, hid, .inl rfl⟩

end

/-! ### What the account has right -/

/-- The account agrees with what stands behind streams. -/
structure Sound (desk : Desk) (p : Plumbing) : Prop where
  /-- The shell is alive. -/
  isGone : p.isGone = false
  /-- Open files are numbered. -/
  numbered : p.Numbered
  /-- The streams that everything started from are in memory. -/
  base : ∀ stream, p.outlets[desk.base.output stream]? = some .memory
  /-- Every stream is one of these, or was opened for a redirection. -/
  known : ∀ context ∈ desk.contexts, ∀ stream, context.output stream = desk.base.output stream ∨
    ∃ lease ∈ desk.leases, context.output stream ∈ lease.files
  /-- Such a stream is open just if the account says so. -/
  files : ∀ lease ∈ desk.leases, ∀ id ∈ lease.files, ∃ file,
    p.outlets[id]? = some (.opened file (! desk.isClosed id))
  /-- A redirection holds what was opened for it until it is over. -/
  held : ∀ lease ∈ desk.leases, lease.redirection.opened = if lease.isOver then [] else lease.files
  /-- No stream was opened for two redirections. -/
  owners : (desk.leases.map Lease.files).flatten.Nodup
  /-- Streams without a target were passed on, and are not among those that were opened. -/
  passed : ∀ lease ∈ desk.leases, lease.derived.stdin = lease.parent.stdin ∧
    ∀ stream, lease.invocation.target stream = none →
      lease.derived.output stream = lease.parent.output stream ∧ lease.derived.output stream ∉ lease.files
  /-- Streams that were closed by hand exist. -/
  shut : ∀ id ∈ desk.shut, id < p.outlets.size

namespace Sound

variable {desk : Desk} {p p' : Plumbing}

theorem lt_of_mem_files (h : desk.Sound p) {lease : Lease} (hlease : lease ∈ desk.leases) {id : Nat}
    (hid : id ∈ lease.files) : id < p.outlets.size :=
  have ⟨_, hfile⟩ := h.files lease hlease id hid
  (Array.getElem?_eq_some_iff.1 hfile).1

theorem lt_of_mem_contexts (h : desk.Sound p) {context : Streams} (hcontext : context ∈ desk.contexts)
    (stream : Stream) : context.output stream < p.outlets.size := by
  obtain hbase | ⟨lease, hlease, hid⟩ := h.known context hcontext stream
  · rw [hbase]
    exact (Array.getElem?_eq_some_iff.1 (h.base stream)).1
  · exact h.lt_of_mem_files hlease hid

/-- More streams do not make an account wrong. -/
theorem retains (h : desk.Sound p) (hp : p.Retains p') : desk.Sound p' where
  isGone := hp.isGone.trans h.isGone
  numbered := hp.numbered h.numbered
  base stream := (hp.outlets _ (h.lt_of_mem_contexts List.mem_cons_self stream)).trans (h.base stream)
  known := h.known
  files lease hlease id hid := by
    rw [hp.outlets id (h.lt_of_mem_files hlease hid)]
    exact h.files lease hlease id hid
  held := h.held
  owners := h.owners
  passed := h.passed
  shut id hid := Nat.lt_of_lt_of_le (h.shut id hid) hp.size_le

/-- A stream is closed by hand. -/
theorem withShut (h : desk.Sound p) {id : Nat} (hid : id < p.outlets.size) :
    (desk.withShut id).Sound (p.closing id) where
  isGone := h.isGone
  numbered := h.numbered
  base stream := by
    rw [Plumbing.getElem?_closing, Desk.withShut, h.base stream]
    split <;> rfl
  known := h.known
  files lease hlease i hi := by
    obtain ⟨file, hfile⟩ := h.files lease hlease i hi
    refine ⟨file, ?_⟩
    rw [Plumbing.getElem?_closing, hfile]
    split
    · next heq =>
      have hclosed : (desk.withShut id).isClosed i = true :=
        (isClosed_iff _ i).2 ⟨lease, hlease, hi, .inr (heq ▸ List.mem_cons_self)⟩
      rw [hclosed]
      rfl
    · next hne => rw [isClosed_withShut hne]
  held := h.held
  owners := h.owners
  passed := h.passed
  shut i hi := by
    rw [Plumbing.closing, Array.size_modify]
    obtain rfl | hi := List.mem_cons.1 hi
    · exact hid
    · exact h.shut i hi

section

variable {parent derived : Streams} {i : Invocation} {redirection : Redirection} {world after : World}

/-- A context is derived. -/
theorem withLease (h : desk.Sound world.plumbing) (hparent : parent ∈ desk.contexts)
    (hi : Redirection.Derives i parent derived redirection world after) :
    (desk.withLease { parent, invocation := i, derived, redirection }).Sound after.plumbing := by
  have h' := h.retains hi.retains
  -- What is opened is new, so it is none of what the account knows already.
  have hfresh : ∀ id < world.plumbing.outlets.size, id ∉ i.targeted derived := fun id hid hmem =>
    Nat.not_lt_of_le (hi.fresh id hmem) (world.size_outlets ▸ hid)
  let lease : Lease := { parent, invocation := i, derived, redirection }
  have hsame (id : Nat) : (desk.withLease lease).isClosed id = desk.isClosed id :=
    @isClosed_withLease desk lease rfl (fun id hid => hfresh id (h.shut id hid)) id
  refine
    { isGone := h'.isGone
      numbered := h'.numbered
      base := h'.base
      known := fun context hcontext stream => ?_
      files := fun lease hlease id hid => ?_
      held := fun lease hlease => ?_
      owners := ?_
      passed := fun lease hlease => ?_
      shut := h'.shut }
  · have hknown : ∀ context ∈ desk.contexts, context.output stream = desk.base.output stream ∨
        ∃ lease ∈ (desk.withLease { parent, invocation := i, derived, redirection }).leases,
          context.output stream ∈ lease.files := fun context hcontext =>
      (h.known context hcontext stream).imp_right fun ⟨lease, hlease, hid⟩ =>
        ⟨lease, List.mem_append_left _ hlease, hid⟩
    rw [contexts, Desk.withLease, List.map_append, List.map_singleton, ← List.cons_append] at hcontext
    obtain hcontext | hcontext := List.mem_append.1 hcontext
    · exact hknown context hcontext
    · obtain rfl := List.mem_singleton.1 hcontext
      by_cases hnone : i.target stream = none
      · rw [hi.passed stream hnone]
        exact hknown parent hparent
      · exact .inr ⟨_, List.mem_append_right _ List.mem_cons_self, Invocation.mem_targeted hnone context⟩
  · rw [hsame]
    obtain hlease | hlease := List.mem_append.1 hlease
    · exact h'.files lease hlease id hid
    · obtain rfl := List.mem_singleton.1 hlease
      have hopen : desk.isClosed id = false := Bool.eq_false_iff.2 fun hclosed =>
        have ⟨lease, hlease, hfile, _⟩ := (isClosed_iff desk id).1 hclosed
        hfresh id (h.lt_of_mem_files hlease hfile) hid
      rw [hopen]
      exact hi.isOpen id hid
  · obtain hlease | hlease := List.mem_append.1 hlease
    · exact h.held lease hlease
    · obtain rfl := List.mem_singleton.1 hlease
      exact hi.opened
  · rw [Desk.withLease, List.map_append, List.flatten_append, List.map_singleton, List.flatten_singleton]
    refine List.nodup_append.2 ⟨h.owners, hi.nodup, fun id hid id' hid' heq => ?_⟩
    obtain ⟨files, hfiles, hid⟩ := List.mem_flatten.1 hid
    obtain ⟨lease, hlease, rfl⟩ := List.mem_map.1 hfiles
    exact hfresh id (h.lt_of_mem_files hlease hid) (heq ▸ hid')
  · obtain hlease | hlease := List.mem_append.1 hlease
    · exact h.passed lease hlease
    · obtain rfl := List.mem_singleton.1 hlease
      refine ⟨hi.stdin, fun stream hnone => ⟨hi.passed stream hnone, ?_⟩⟩
      refine hfresh _ ?_
      rw [hi.passed stream hnone]
      exact h.lt_of_mem_contexts hparent stream

end

/-- A redirection is given up, and what its owner held is closed. -/
theorem withoutLease (h : desk.Sound p) {place : Nat} {lease : Lease} (hlease : desk.leases[place]? = some lease)
    {redirection : Redirection} (hempty : redirection.opened = []) :
    (desk.withoutLease place lease redirection).Sound (lease.redirection.opened.foldl Plumbing.closing p) := by
  have hmem : lease ∈ desk.leases := List.mem_of_getElem? hlease
  have hclosed := isClosed_withoutLease hlease redirection
  have hcontexts : (desk.withoutLease place lease redirection).contexts = desk.contexts :=
    congrArg (desk.base :: ·) (map_leases_withoutLease hlease redirection rfl)
  refine
    { isGone := (congrArg Plumbing.isGone (Plumbing.foldl_closing_eq _ p)).trans h.isGone
      numbered := Plumbing.foldl_closing_eq lease.redirection.opened p ▸ h.numbered
      base := fun stream => ?_
      known := fun context hcontext stream => ?_
      files := fun other hother id hid => ?_
      held := fun other hother => ?_
      owners := ?_
      passed := fun other hother => ?_
      shut := fun id hid => (Plumbing.size_foldl_closing _ p).symm ▸ h.shut id hid }
  · rw [Plumbing.getElem?_foldl_closing, Desk.withoutLease, h.base stream]
    split <;> rfl
  · refine (h.known context (hcontexts ▸ hcontext) stream).imp_right fun ⟨old, hold, hid⟩ => ?_
    obtain hother | rfl := mem_leases_withoutLease hlease redirection hold
    · exact ⟨old, hother, hid⟩
    · exact ⟨_, lease_mem_withoutLease hlease redirection, hid⟩
  · have hold : ∃ old ∈ desk.leases, id ∈ old.files := by
      obtain hold | rfl := List.mem_or_eq_of_mem_set hother
      · exact ⟨other, hold, hid⟩
      · exact ⟨lease, hmem, hid⟩
    obtain ⟨old, hold, hid⟩ := hold
    obtain ⟨file, hfile⟩ := h.files old hold id hid
    refine ⟨file, ?_⟩
    rw [Plumbing.getElem?_foldl_closing, hfile, h.held lease hmem]
    by_cases hmine : id ∈ lease.files
    · rw [(hclosed id).2 (.inr hmine)]
      -- A redirection that is over has nothing left to close, but its files are closed already.
      cases hover : lease.isOver with
      | false => rw [if_neg Bool.false_ne_true, if_pos hmine]; rfl
      | true =>
        rw [(isClosed_iff desk id).2 ⟨lease, hmem, hmine, .inl hover⟩, if_pos rfl, if_neg List.not_mem_nil]
    · have hsame : (desk.withoutLease place lease redirection).isClosed id = desk.isClosed id :=
        Bool.eq_iff_iff.2 ((hclosed id).trans (or_iff_left hmine))
      rw [hsame, if_neg]
      split
      · exact List.not_mem_nil
      · exact hmine
  · obtain hold | rfl := List.mem_or_eq_of_mem_set hother
    · exact h.held other hold
    · exact hempty
  · rw [map_leases_withoutLease hlease redirection rfl]
    exact h.owners
  · obtain hold | rfl := List.mem_or_eq_of_mem_set hother
    · exact h.passed other hold
    · exact h.passed lease hmem

end Sound

variable {desk : Desk} {world : World}

/-- Whatever is done, the account stays right. -/
theorem sound_perform (h : desk.Sound world.plumbing) (deed : Deed) :
    (desk.perform deed world).1.Sound (desk.perform deed world).2.plumbing := by
  cases deed with
  | apply context i =>
    rw [perform]
    cases hcontext : desk.contexts[context]? with
    | none => exact h
    | some parent =>
      dsimp only
      rw [Run.bind_apply]
      match happly : Redirection.apply i parent world with
      | (.error failure, after) =>
        exact h.retains (Redirection.undisturbed_of_apply h.numbered happly).retains
      | (.ok (derived, redirection), after) =>
        exact h.withLease (List.mem_of_getElem? hcontext) (Redirection.derives_of_apply happly)
  | write context stream bs =>
    rw [perform]
    cases desk.stream? context stream with
    | none => exact h
    | some id => exact (World.write_keeps_plumbing id bs world).symm ▸ h
  | flush context stream =>
    rw [perform]
    cases desk.stream? context stream with
    | none => exact h
    | some id => exact (World.flush_keeps_plumbing id world).symm ▸ h
  | close context stream =>
    rw [perform]
    cases hid : desk.stream? context stream with
    | none => exact h
    | some id =>
      obtain ⟨streams, hcontext, rfl⟩ := Option.map_eq_some_iff.1 hid
      have hlt := h.lt_of_mem_contexts (List.mem_of_getElem? hcontext) stream
      exact (World.plumbing_close _ world).symm ▸ h.withShut hlt
  | release place =>
    rw [perform]
    cases hlease : desk.leases[place]? with
    | none => exact h
    | some lease => exact (World.plumbing_forM_close _ world).symm ▸ h.withoutLease hlease rfl
  | drop place =>
    rw [perform]
    cases hlease : desk.leases[place]? with
    | none => exact h
    | some lease => exact (World.plumbing_forM_close _ world).symm ▸ h.withoutLease hlease rfl

/-- The account is right whatever was done. -/
theorem sound_performAll (h : desk.Sound world.plumbing) (deeds : List Deed) :
    (desk.performAll deeds world).1.Sound (desk.performAll deeds world).2.plumbing := by
  induction deeds generalizing desk world with
  | nil => exact h
  | cons deed deeds ih => exact ih (sound_perform h deed)

/-! ### What streams do -/

/-- What streams and redirections do, told by the account of what was done with them. -/
structure Lawful (desk : Desk) (world : World) : Prop where
  /-- A stream refuses bytes just if it is that of a file and either its redirection is over or it was closed by
  hand. -/
  refused : ∀ context ∈ desk.contexts, ∀ stream, ∀ bs ≠ [],
    ((World.write (context.output stream) bs world).1 = .error .targetClosed ↔
        desk.isClosed (context.output stream) = true) ∧
      ((World.writeOnce (context.output stream) bs world).1 = .error .targetClosed ↔
        desk.isClosed (context.output stream) = true)
  /-- Nothing comes of bytes that are refused. -/
  traceless : ∀ context ∈ desk.contexts, ∀ stream, desk.isClosed (context.output stream) = true → ∀ bs,
    (World.write (context.output stream) bs world).2 = world ∧
      (World.writeOnce (context.output stream) bs world).2 = world
  /-- Memory takes everything, and cannot be closed. -/
  memory : ∀ stream, desk.isClosed (desk.base.output stream) = false ∧
    (∀ bs, (World.write (desk.base.output stream) bs world).1 = .ok ()) ∧
    World.close (desk.base.output stream) world = ((), world)
  /-- The input, and an output stream without a target, is the one of the context that was derived from, and the
  redirection does not own it. -/
  passed : ∀ lease ∈ desk.leases, lease.derived.stdin = lease.parent.stdin ∧
    ∀ stream, lease.invocation.target stream = none →
      lease.derived.output stream = lease.parent.output stream ∧ lease.derived.output stream ∉ lease.files
  /-- No stream belongs to two redirections, or twice to one. -/
  owners : (desk.leases.map Lease.files).flatten.Nodup
  /-- Releasing a redirection leaves all streams alone that it does not own. -/
  released : ∀ lease ∈ desk.leases, ∀ id ∉ lease.files,
    (lease.redirection.release world).2.sinks[id]? = world.sinks[id]?
  /-- Releasing it again does nothing at all. -/
  once : ∀ lease ∈ desk.leases, lease.isOver = true → (lease.redirection.release world).2 = world
  /-- Where no context can be derived, nothing that was there is disturbed, and what was opened is closed. -/
  failed : ∀ context ∈ desk.contexts, ∀ i failure after,
    Redirection.apply i context world = (.error failure, after) → world.Undisturbed after

namespace Sound

variable (h : desk.Sound world.plumbing)

include h

theorem isClosed_base (stream : Stream) : desk.isClosed (desk.base.output stream) = false := by
  refine Bool.eq_false_iff.2 fun hclosed => ?_
  obtain ⟨lease, hlease, hid, -⟩ := (isClosed_iff desk _).1 hclosed
  obtain ⟨file, hfile⟩ := h.files lease hlease _ hid
  cases (h.base stream).symm.trans hfile

/-- A stream of a context is closed just if the account says so. -/
theorem isClosed_iff_sink {context : Streams} (hcontext : context ∈ desk.contexts) (stream : Stream) :
    desk.isClosed (context.output stream) = true ↔
      ∃ file, world.sinks[context.output stream]? = some (.opened file false) := by
  obtain hbase | ⟨lease, hlease, hid⟩ := h.known context hcontext stream
  · obtain ⟨written, relay, hsink⟩ := World.outlet_eq_memory_iff.1 (h.base stream)
    rw [hbase, h.isClosed_base stream, hsink]
    exact ⟨nofun, nofun⟩
  · obtain ⟨file, hfile⟩ := h.files lease hlease _ hid
    rw [World.outlet_eq_opened_iff.1 hfile]
    cases desk.isClosed (context.output stream) with
    | true => exact ⟨fun _ => ⟨file, rfl⟩, fun _ => rfl⟩
    | false => exact ⟨nofun, nofun⟩

theorem lawful : desk.Lawful world where
  refused context hcontext stream bs hbs := by
    have hlt := world.size_outlets ▸ h.lt_of_mem_contexts hcontext stream
    rw [h.isClosed_iff_sink hcontext stream]
    exact ⟨World.write_refused_iff hbs h.isGone hlt, World.writeOnce_refused_iff hbs h.isGone hlt⟩
  traceless context hcontext stream hclosed bs := by
    obtain ⟨file, hsink⟩ := (h.isClosed_iff_sink hcontext stream).1 hclosed
    exact ⟨World.write_refused hsink bs, by rw [World.writeOnce_of_refused hsink]⟩
  memory stream := by
    obtain ⟨written, relay, hsink⟩ := World.outlet_eq_memory_iff.1 (h.base stream)
    refine ⟨h.isClosed_base stream, fun bs => ?_, ?_⟩
    · rw [World.write, Run.get_bind, show world.isGone = false from h.isGone, hsink]
      rfl
    · rw [World.close_eq, hsink]
  passed := h.passed
  owners := h.owners
  released lease hlease id hid := by
    refine World.sinks_forM_close ?_ world
    rw [h.held lease hlease]
    split
    · exact List.not_mem_nil
    · exact hid
  once lease hlease hover := by
    have hopened : lease.redirection.opened = [] := by rw [h.held lease hlease, hover, if_pos rfl]
    rw [Redirection.release, hopened]
    rfl
  failed context hcontext i failure after happly := Redirection.undisturbed_of_apply h.numbered happly

end Sound

/-- **Who closes a file.** From a context over memory, whatever is done with contexts, streams and redirections:
a stream refuses bytes just if it is that of a file and its redirection is over, or it was closed by hand. What a
derived context has passed on is never closed by releasing its redirection, and where deriving fails nothing is
left open. -/
theorem lawful_performAll (streams : Streams) (world : World)
    (hmemory : ∀ stream, ∃ written relay, world.sinks[streams.output stream]? = some (.memory written relay))
    (hthere : world.isGone = false) (hnumbered : world.plumbing.Numbered) (deeds : List Deed) :
    (performAll { base := streams } deeds world).1.Lawful (performAll { base := streams } deeds world).2 := by
  have hstart : Sound { base := streams } world.plumbing :=
    { isGone := hthere
      numbered := hnumbered
      base := fun stream => by
        obtain ⟨written, relay, hsink⟩ := hmemory stream
        rw [World.getElem?_outlets, hsink]
        rfl
      known := fun context hcontext stream => .inl (by rw [List.mem_singleton.1 hcontext])
      files := nofun
      held := nofun
      owners := List.nodup_nil
      passed := nofun
      shut := nofun }
  exact (sound_performAll hstart deeds).lawful

/-- Streams in memory, for results and for messages. -/
def memoryStreams : Streams := { stdin := 0, stdout := 0, stderr := 1 }

/-- A world with two streams in memory. -/
def memoryWorld : World := { sinks := #[.memory [] none, .memory [] none] }

/-- A context is derived from one that is redirected already. The outer redirection is dropped while the inner
one is in force, and then a context cannot be derived. -/
def nestedDeeds : List Deed :=
  [.apply 0 { stdout := some { path := "out" } }, .apply 1 { stderr := some { path := "err" } },
    .write 2 .stdout [0x61], .drop 0,
    .apply 2 { stdout := some { path := "new" }, stderr := some { path := "/" } }]

/-- What was opened outside is closed inside too, what was opened inside is open still, and what was opened in
vain is closed. -/
theorem lawful_nestedDeeds :
    (∀ stream, ∃ written relay, memoryWorld.sinks[memoryStreams.output stream]? = some (.memory written relay)) ∧
      memoryWorld.isGone = false ∧ memoryWorld.plumbing.Numbered ∧
      (performAll { base := memoryStreams } nestedDeeds memoryWorld).1.Lawful
        (performAll { base := memoryStreams } nestedDeeds memoryWorld).2 ∧
      (performAll { base := memoryStreams } nestedDeeds memoryWorld).2.sinks =
        #[.memory [] none, .memory [] none, .opened 0 false, .opened 1 true, .opened 2 false] := by
  have hmemory : ∀ stream, ∃ written relay,
      memoryWorld.sinks[memoryStreams.output stream]? = some (.memory written relay) := by
    intro stream
    cases stream <;> exact ⟨[], none, rfl⟩
  have hthere : memoryWorld.isGone = false := by decide
  have hnumbered : memoryWorld.plumbing.Numbered := fun file hfile => by
    simp [World.plumbing, memoryWorld] at hfile
  exact ⟨hmemory, hthere, hnumbered, lawful_performAll memoryStreams memoryWorld hmemory hthere hnumbered nestedDeeds,
    by decide +kernel⟩

end Desk

end LineShell
