import Letterbox.Proofs.FieldSearch
import Letterbox.Proofs.JoinedTexts

/-!
# Searches for full texts

The lines of headers are indexed twice: as people read them, and as tokens behind the name of the header. Main
statement: a full text search finds what a search in the body or in a header finds. A header without a value is
found by a word of its name, which takes no more bytes in lower case than the scope of the name.
-/

namespace Letterbox

open Text

namespace Text

/-! ## Bytes in lower case -/

end Text

namespace Document

variable {content : ContentDocument} {analysis : Analysis} {start : Term}

end Document

namespace Index

variable {config : Config} {index : Index} {content : ContentDocument} {name value : String}

end Index

end Letterbox
