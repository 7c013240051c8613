import Letterbox.Proofs.Deferral
import Letterbox.Proofs.Interleaving
import Letterbox.Proofs.Ledger

/-!
# Indexes of one configuration

An index that is opened, called and opened again with one configuration analyses all its documents alike.
Main statement: the entries that searches see have the analysis of the configuration, after any history.
-/

namespace Letterbox

/-- Every entry has one analysis. -/
def Snapshot.AnalysedBy (analysis : Analysis) (snapshot : Snapshot) : Prop :=
  ∀ entry ∈ snapshot, entry.analysis = analysis

namespace Index

theorem analysedBy_replace {analysis : Analysis} {snapshot : Snapshot}
    (alike : snapshot.AnalysedBy analysis) (document : Document) :
    Snapshot.AnalysedBy analysis (replace analysis snapshot document) := by
  intro entry listed
  rcases List.mem_append.mp listed with former | new
  · exact alike entry (List.mem_filter.mp former).1
  · rw [List.mem_singleton.mp new]
    rfl

theorem analysedBy_reflag {analysis : Analysis} {snapshot : Snapshot}
    (alike : snapshot.AnalysedBy analysis) (mailbox : Mailbox) (flags : Flags) (uids : List Uid) :
    Snapshot.AnalysedBy analysis (uids.foldl
      (fun snapshot uid => replace analysis snapshot (.flags ⟨mailbox, uid, flags⟩)) snapshot) := by
  induction uids generalizing snapshot with
  | nil => exact alike
  | cons uid rest ih => exact ih (analysedBy_replace alike _)

/-- All entries of an index, visible or pending, have the analysis of its configuration. -/
structure Uniform (index : Index) : Prop where
  committed : index.committed.AnalysedBy index.analysis
  written : index.written.AnalysedBy index.analysis

namespace Uniform

variable {index next : Index}

theorem commitPending (uniform : index.Uniform) : index.commitPending.Uniform := by
  unfold Index.commitPending
  split
  · exact ⟨uniform.written, uniform.written⟩
  · exact uniform

theorem afterWrite (uniform : index.Uniform) {written : Snapshot}
    (alike : written.AnalysedBy index.analysis) : (index.afterWrite written).Uniform := by
  unfold Index.afterWrite
  split
  · exact ⟨alike, alike⟩
  · exact ⟨uniform.committed, alike⟩

/-- A call keeps the analysis of all entries. -/
theorem apply (uniform : index.Uniform) (operation : Operation) : (index.apply operation).1.Uniform := by
  cases operation with
  | add mailbox message =>
      rw [Index.apply]
      split
      · next next done =>
        obtain ⟨-, content, -, put⟩ := add_ok done
        rw [(put_ok put).2]
        exact uniform.afterWrite (analysedBy_replace (analysedBy_replace uniform.written _) _)
      · exact uniform
  | update mailbox range flags =>
      rw [Index.apply]
      split
      · next next count done =>
        rw [(update_ok done).2.1]
        exact uniform.commitPending.afterWrite (analysedBy_reflag uniform.commitPending.written _ _ _)
      · exact uniform
  | delete mailbox range =>
      rw [Index.apply]
      split
      · next next done =>
        rw [(delete_ok done).2]
        exact uniform.afterWrite fun entry listed => uniform.written entry (List.mem_filter.mp listed).1
      · exact uniform
  | flush =>
      rw [Index.apply]
      split
      · next next done =>
        rw [(flush_ok done).2]
        exact uniform.commitPending
      · exact uniform
  | requestCommit =>
      rw [Index.apply, requestCommit]
      split
      · exact uniform.commitPending
      · exact uniform
  | close =>
      rw [Index.apply, close]
      split
      · exact ⟨uniform.commitPending.committed, uniform.commitPending.written⟩
      · exact uniform

end Uniform

/-- The indexes that come of opening with a configuration, calling, and opening again with the same. -/
inductive Lives (config : Config) : Index → Prop
  | opened (decoder : Mime.Decoder) : Lives config (ofSnapshot config decoder [])
  | reopened {index : Index} (decoder : Mime.Decoder) :
      Lives config index → Lives config (ofSnapshot config decoder index.committed)
  | called {index : Index} (operation : Operation) :
      Lives config index → Lives config (index.apply operation).1

namespace Lives

variable {config : Config} {index : Index}

theorem config_eq (lives : Lives config index) : index.config = config := by
  induction lives with
  | opened decoder => rfl
  | reopened decoder before same => rfl
  | called operation before same => rw [config_apply, same]

theorem analysis_eq (lives : Lives config index) : index.analysis = config.analysis := by
  rw [analysis, lives.config_eq]

/-- All entries were analysed as the configuration says. -/
theorem uniform (lives : Lives config index) : index.Uniform := by
  induction lives with
  | opened decoder =>
      have none : Snapshot.AnalysedBy config.analysis [] := by
        intro entry listed
        simp at listed
      exact ⟨none, none⟩
  | reopened decoder before alike =>
      have visible := alike.committed
      rw [before.analysis_eq] at visible
      exact ⟨visible, visible⟩
  | called operation before alike => exact alike.apply operation

end Lives

/-! ## An index of one letter -/

/-- A body part of plain text. -/
def plainBody (text : String) : Mime.Event :=
  .body ⟨"text", "plain", none, text.toList.flatMap Text.Utf8.encodeLetter⟩

/-- An index that was opened with a configuration and given one letter, of which its decoder tells some
events. -/
def ofLetter (config : Config) (events : List Mime.Event) : Index :=
  ((ofSnapshot config (fun _ => .ok events) []).apply (.add emptyLetter.mailbox emptyLetter)).1

variable (config : Config) (events : List Mime.Event)

theorem lives_ofLetter : Lives config (ofLetter config events) :=
  .called _ (.opened _)

theorem config_ofLetter : (ofLetter config events).config = config :=
  (lives_ofLetter config events).config_eq

/-- The first documents have none to replace. -/
theorem replace_first (analysis : Analysis) (content : ContentDocument) (flags : FlagsDocument) :
    replace analysis (replace analysis [] (.content content)) (.flags flags)
      = [.ofDocument analysis (.content content), .ofDocument analysis (.flags flags)] := by
  have apart : (Query.withKey (Document.flags flags).key (Document.flags flags).kind).selects
      (.ofDocument analysis (.content content)) = false := by
    rw [← Bool.not_eq_true, Query.withKey, Query.selects_both, Query.selects_ofKind]
    rintro ⟨-, kind⟩
    simp [Entry.ofDocument, Document.kind] at kind
  have first : replace analysis [] (.content content) = [.ofDocument analysis (.content content)] := rfl
  rw [first, replace, List.filter_singleton, apart]
  rfl

/-- Searches see the two documents of the letter. -/
theorem committed_ofLetter (atOnce : config.commitsAtOnce = true) :
    (ofLetter config events).committed
      = [.ofDocument config.analysis (.content (.ofEvents emptyLetter events)),
        .ofDocument config.analysis (.flags (.ofMessage emptyLetter))] := by
  have done : (ofSnapshot config (fun _ => .ok events) []).add emptyLetter.mailbox emptyLetter
      = .ok ((ofSnapshot config (fun _ => .ok events) []).afterWrite
        (replace config.analysis (replace config.analysis [] (.content (.ofEvents emptyLetter events)))
          (.flags (.ofMessage emptyLetter)))) := rfl
  rw [ofLetter, apply, done]
  exact (committed_afterWrite atOnce _).trans (replace_first _ _ _)

theorem content_mem_ofLetter (atOnce : config.commitsAtOnce = true) {content : ContentDocument} :
    .content content ∈ (ofLetter config events).committed.documents
      ↔ content = .ofEvents emptyLetter events := by
  rw [committed_ofLetter config events atOnce]
  simp [Snapshot.documents, Entry.ofDocument]

end Index

end Letterbox
