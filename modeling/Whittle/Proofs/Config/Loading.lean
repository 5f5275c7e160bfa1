import Whittle.Config.Load

namespace Whittle

namespace Manifest

end Manifest

namespace Config

section

variable {w : Workspace} {p : Path} {content : Bytes} {f : Failure}

end

end Config

end Whittle
