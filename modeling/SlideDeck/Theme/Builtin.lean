import SlideDeck.Theme.Basic

/-! The themes that every deck can use. -/

namespace SlideDeck.Theme

/-- Headers are bold, and the body has the colour of the text. -/
def make (name : String) (category : Category) (background primary card text : Nat)
    (header : String × Float32 × Nat) (footer : String × Float32 × Nat)
    (body : String × Float32) : Theme where
  name := name
  category := category
  colors := ⟨.ofCode background, .ofCode primary, .ofCode card, .ofCode text⟩
  typography :=
    { header := ⟨header.1, header.2.1, true, .ofCode header.2.2⟩
      body := ⟨body.1, body.2, false, .ofCode text⟩
      footer := ⟨footer.1, footer.2.1, false, .ofCode footer.2.2⟩ }

def professionalCard : Theme :=
  make "Professional Card" .business 0xf5f5f0 0x268f80 0xffffff 0x333333
    ("Montserrat", 24, 0xffffff) ("Roboto", 10, 0xffffff) ("Roboto", 14)

def builtin : List (String × Theme) :=
  [("default", professionalCard),
    ("dark", make "Dark Modern" .business 0x1a1a1e 0x3399db 0x2e2e33 0xe6e6e6
      ("Roboto", 24, 0xffffff) ("Roboto", 10, 0xcccccc) ("Roboto", 14)),
    ("light", make "Clean Light" .business 0xffffff 0x4d4d4d 0xfafafa 0x1a1a1a
      ("Open Sans", 24, 0xffffff) ("Open Sans", 10, 0xffffff) ("Open Sans", 14)),
    ("quarterly", make "Quarterly Report" .business 0xf2f2f8 0x1a3366 0xffffff 0x33334d
      ("Lato", 24, 0xffffff) ("Lato", 10, 0xcccce6) ("Lato", 14)),
    ("bw_simple", make "B&W Simple" .cover 0x000000 0xffffff 0x000000 0xffffff
      ("Roboto", 36, 0xffffff) ("Roboto", 12, 0xcccccc) ("Roboto", 14)),
    ("product_pitch", make "Showstopping Pitch" .cover 0x000000 0xffffff 0x000000 0xffffff
      ("Oswald", 50, 0xffffff) ("Oswald", 14, 0xcccccc) ("Oswald", 24)),
    ("vibrant_yellow", make "Vibrant Yellow" .cover 0x333333 0xffd700 0x333333 0xffd700
      ("Anton", 48, 0xffe600) ("Roboto", 12, 0xffffff) ("Roboto", 18)),
    ("academic", make "Academic Blue" .lecture 0xf2f7ff 0x1a4d99 0xffffff 0x1a1a33
      ("Merriweather", 24, 0xffffff) ("Merriweather", 10, 0xffffff) ("Merriweather", 14)),
    ("blackboard", make "Blackboard" .lecture 0x334d40 0xe6cc66 0x40594d 0xffffff
      ("Patrick Hand", 28, 0xffffff) ("Patrick Hand", 12, 0xe6e6e6) ("Patrick Hand", 16)),
    ("startup", make "Startup Bold" .pitchDeck 0xffffff 0xff4d00 0xfafafa 0x1a1a1a
      ("Poppins", 26, 0xffffff) ("Poppins", 10, 0xffffff) ("Poppins", 14)),
    ("investor", make "Investor Clean" .pitchDeck 0xfafafe 0x1a1a66 0xffffff 0x333333
      ("Lato", 24, 0xffffff) ("Lato", 10, 0xffffff) ("Lato", 14))]

end SlideDeck.Theme
