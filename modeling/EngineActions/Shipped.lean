import EngineActions.Catalog
import EngineActions.Shipped.Nwn1.From0
import EngineActions.Shipped.Nwn1.From212
import EngineActions.Shipped.Nwn1.From424
import EngineActions.Shipped.Nwn1.From636
import EngineActions.Shipped.Nwn2.From0
import EngineActions.Shipped.Nwn2.From212
import EngineActions.Shipped.Nwn2.From424
import EngineActions.Shipped.Nwn2.From636
import EngineActions.Shipped.Nwn2.From848

namespace EngineActions.Shipped

-- A position is an ordinal in compiled scripts: a row is never moved or dropped.
def rows : Revision → List Declaration
  | .nwn1 => nwn1From0 ++ nwn1From212 ++ nwn1From424 ++ nwn1From636
  | .nwn2 => nwn2From0 ++ nwn2From212 ++ nwn2From424 ++ nwn2From636 ++ nwn2From848

def catalog (detail : Detail) (revision : Revision) : Catalog :=
  .ofDeclarations detail revision (rows revision)

end EngineActions.Shipped
