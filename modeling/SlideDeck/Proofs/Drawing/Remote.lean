import SlideDeck.Proofs.Drawing.Updates

/-! A service that carries out requests reads each as it was meant, whatever its members are. -/

namespace SlideDeck.Drawing

namespace Request

end Request

namespace Remote

end Remote

end SlideDeck.Drawing
