import Letterbox.Index

/-!
# Calls on an index

What an index looks like after a call that succeeds, and which parts of it a commit and a write leave alone.
-/

namespace Letterbox.Index

variable {index next : Index}

/-! ## Commits and writes -/

@[simp] theorem written_commitPending (index : Index) : index.commitPending.written = index.written := by
  unfold commitPending
  split <;> rfl

@[simp] theorem config_commitPending (index : Index) : index.commitPending.config = index.config := by
  unfold commitPending
  split <;> rfl

@[simp] theorem analysis_commitPending (index : Index) : index.commitPending.analysis = index.analysis := by
  rw [analysis, config_commitPending]
  rfl

@[simp] theorem isOpen_commitPending (index : Index) : index.commitPending.isOpen = index.isOpen := by
  unfold commitPending
  split <;> rfl

/-- After a commit nothing is pending. -/
theorem isDirty_commitPending (index : Index) : index.commitPending.isDirty = false := by
  unfold commitPending
  split
  · rfl
  · next clean => simpa using clean

/-- Without pending writes there is nothing to commit. -/
theorem commitPending_of_clean (clean : index.isDirty = false) : index.commitPending = index := by
  simp [commitPending, clean]

/-- A commit shows all writes, if what is shown lacks only what is pending. -/
theorem committed_commitPending (clean : index.isDirty = false → index.committed = index.written) :
    index.commitPending.committed = index.written := by
  unfold commitPending
  split
  · rfl
  · next tidy => exact clean (by simpa using tidy)

@[simp] theorem config_afterWrite (index : Index) (written : Snapshot) :
    (index.afterWrite written).config = index.config := by
  unfold afterWrite
  split <;> rfl

theorem analysis_afterWrite (index : Index) (written : Snapshot) :
    (index.afterWrite written).analysis = index.analysis := by
  rw [analysis, config_afterWrite]
  rfl

@[simp] theorem written_afterWrite (index : Index) (written : Snapshot) :
    (index.afterWrite written).written = written := by
  unfold afterWrite
  split <;> rfl

theorem isOpen_afterWrite (index : Index) (written : Snapshot) :
    (index.afterWrite written).isOpen = index.isOpen := by
  unfold afterWrite
  split <;> rfl

theorem decoder_afterWrite (index : Index) (written : Snapshot) :
    (index.afterWrite written).decoder = index.decoder := by
  unfold afterWrite
  split <;> rfl

theorem committed_afterWrite (atOnce : index.config.commitsAtOnce = true) (written : Snapshot) :
    (index.afterWrite written).committed = written := by
  rw [afterWrite, if_pos atOnce]
  rfl

theorem committed_afterWrite_of_deferred (defers : index.config.commitsAtOnce = false)
    (written : Snapshot) : (index.afterWrite written).committed = index.committed := by
  rw [afterWrite, defers]
  rfl

/-- A write that nothing waits for is shown. -/
theorem clean_afterWrite (index : Index) (written : Snapshot)
    (clean : (index.afterWrite written).isDirty = false) :
    (index.afterWrite written).committed = (index.afterWrite written).written := by
  unfold afterWrite at clean ⊢
  split at clean
  · next atOnce =>
    rw [if_pos atOnce]
    rfl
  · simp at clean

/-! ## Calls that need an open index -/

variable {mailbox : Mailbox} {range : UidRange} {flags : Flags} {count : Nat}

theorem put_eq (index : Index) (documents : MessageDocuments) :
    index.put documents
      = if index.isOpen then
          .ok (index.afterWrite (replace index.analysis
            (replace index.analysis index.written (.content documents.content)) (.flags documents.flags)))
        else .error (.closed "add") := by
  unfold put requireOpen
  cases index.isOpen <;> rfl

/-- The entries that an update makes of those without pending writes. -/
def reflagged (index : Index) (mailbox : Mailbox) (range : UidRange) (flags : Flags) : Snapshot :=
  (index.committed.uids (flagsQuery mailbox range)).foldl
    (fun snapshot uid => replace index.analysis snapshot (.flags ⟨mailbox, uid, flags⟩)) index.written

theorem update_eq (index : Index) (mailbox : Mailbox) (range : UidRange) (flags : Flags) :
    index.update mailbox range flags
      = if index.isOpen then
          .ok (index.commitPending.afterWrite (index.commitPending.reflagged mailbox range flags),
            (index.commitPending.committed.uids (flagsQuery mailbox range)).length)
        else .error (.closed "update") := by
  unfold update requireOpen
  cases index.isOpen <;> rfl

theorem delete_eq (index : Index) (mailbox : Mailbox) (range : UidRange) :
    index.delete mailbox range
      = if index.isOpen then
          .ok (index.afterWrite
            (index.written.filter fun entry => ! (rangeQuery mailbox range).selects entry))
        else .error (.closed "delete") := by
  unfold delete requireOpen
  cases index.isOpen <;> rfl

theorem flush_eq (index : Index) :
    index.flush = if index.isOpen then .ok index.commitPending else .error (.closed "flush") := by
  unfold flush requireOpen
  cases index.isOpen <;> rfl

/-! ## Calls that succeed -/

theorem put_ok {documents : MessageDocuments} (done : index.put documents = .ok next) :
    index.isOpen = true
      ∧ next = index.afterWrite (replace index.analysis
        (replace index.analysis index.written (.content documents.content)) (.flags documents.flags)) := by
  rw [put_eq] at done
  split at done
  · next isOpen => exact ⟨isOpen, (Except.ok.inj done).symm⟩
  · simp at done

theorem add_ok {message : Message} (done : index.add mailbox message = .ok next) :
    message.mailbox = mailbox
      ∧ ∃ content, ContentDocument.ofMessage index.decoder message = .ok content
        ∧ index.put ⟨content, .ofMessage message⟩ = .ok next := by
  unfold add at done
  split at done
  · simp at done
  · next own =>
    refine ⟨Decidable.not_not.mp own, ?_⟩
    cases decoded : ContentDocument.ofMessage index.decoder message with
    | error failure => simp [MessageDocuments.ofMessage, decoded] at done
    | ok content =>
        simp only [MessageDocuments.ofMessage, decoded] at done
        exact ⟨content, rfl, done⟩

theorem decoder_of_add {mailbox : Mailbox} {message : Message} (added : index.add mailbox message = .ok next) :
    next.decoder = index.decoder := by
  obtain ⟨-, content, -, put⟩ := add_ok added
  rw [(put_ok put).2, decoder_afterWrite]

theorem isOpen_of_add {mailbox : Mailbox} {message : Message} (added : index.add mailbox message = .ok next) :
    next.isOpen = index.isOpen := by
  obtain ⟨-, content, -, put⟩ := add_ok added
  rw [(put_ok put).2, isOpen_afterWrite]

theorem update_ok (done : index.update mailbox range flags = .ok (next, count)) :
    index.isOpen = true
      ∧ next = index.commitPending.afterWrite (index.commitPending.reflagged mailbox range flags)
      ∧ count = (index.commitPending.committed.uids (flagsQuery mailbox range)).length := by
  rw [update_eq] at done
  split at done
  · next isOpen =>
    obtain ⟨rfl, rfl⟩ := Prod.mk.inj (Except.ok.inj done)
    exact ⟨isOpen, rfl, rfl⟩
  · simp at done

theorem delete_ok (done : index.delete mailbox range = .ok next) :
    index.isOpen = true
      ∧ next = index.afterWrite
        (index.written.filter fun entry => ! (rangeQuery mailbox range).selects entry) := by
  rw [delete_eq] at done
  split at done
  · next isOpen => exact ⟨isOpen, (Except.ok.inj done).symm⟩
  · simp at done

theorem flush_ok (done : index.flush = .ok next) : index.isOpen = true ∧ next = index.commitPending := by
  rw [flush_eq] at done
  split at done
  · next isOpen => exact ⟨isOpen, (Except.ok.inj done).symm⟩
  · simp at done

end Letterbox.Index
