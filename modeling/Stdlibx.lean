import Stdlibx.ErrorValue
import Stdlibx.Errors
import Stdlibx.ErrorsLoop
import Stdlibx.Wrap
import Stdlibx.Slices
import Stdlibx.ErrorGroup
import Stdlibx.AsGroup
import Stdlibx.Format
import Stdlibx.Provenance
import Stdlibx.FakeStrategy
import Stdlibx.ForeignAs
