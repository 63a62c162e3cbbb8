import Querent.Proofs.Sql.Verdict

/-!
# Stable texts

A canonical text is *stable* when it is read as selections, of a given number, and is the canonical
text of these.
-/

namespace Querent.Sql

end Querent.Sql
