import GeoFleet.Text.Mark

/-! Canonical composition. Characters are taken apart, their marks are put in the order of their
combining classes, and what has a composed form is put together again, so that texts that mean the
same are the same. -/
namespace GeoFleet.Text.Composition

/-- The composed characters in order, each as its distance from the one before (`m`) with its two
parts (`g` and `h`). Characters that no name may hold are left out. -/
def rows : List String := [
  "me0g61h300m1g61h301m1g61h302m1g61h303m1g61h308m1g61h30am2g63h327m1g65h300m1g65h301m1g65h302",
  "m1g65h308m1g69h300m1g69h301m1g69h302m1g69h308m2g6eh303m1g6fh300m1g6fh301m1g6fh302m1g6fh303",
  "m1g6fh308m3g75h300m1g75h301m1g75h302m1g75h308m1g79h301m2g79h308m2g61h304m2g61h306m2g61h328",
  "m2g63h301m2g63h302m2g63h307m2g63h30cm2g64h30cm4g65h304m2g65h306m2g65h307m2g65h328m2g65h30c",
  "m2g67h302m2g67h306m2g67h307m2g67h327m2g68h302m4g69h303m2g69h304m2g69h306m2g69h328m6g6ah302",
  "m2g6bh327m3g6ch301m2g6ch327m2g6ch30cm6g6eh301m2g6eh327m2g6eh30cm5g6fh304m2g6fh306m2g6fh30b",
  "m4g72h301m2g72h327m2g72h30cm2g73h301m2g73h302m2g73h327m2g73h30cm2g74h327m2g74h30cm4g75h303",
  "m2g75h304m2g75h306m2g75h30am2g75h30bm2g75h328m2g77h302m2g79h302m3g7ah301m2g7ah307m2g7ah30c",
  "m23g6fh31bmfg75h31bm1eg61h30cm2g69h30cm2g6fh30cm2g75h30cm2gfch304m2gfch301m2gfch30cm2gfch300",
  "m3ge4h304m2g227h304m2ge6h304m4g67h30cm2g6bh30cm2g6fh328m2g1ebh304m2g292h30cm1g6ah30cm5g67h301",
  "m4g6eh300m2ge5h301m2ge6h301m2gf8h301m2g61h30fm2g61h311m2g65h30fm2g65h311m2g69h30fm2g69h311",
  "m2g6fh30fm2g6fh311m2g72h30fm2g72h311m2g75h30fm2g75h311m2g73h326m2g74h326m4g68h30cm8g61h307",
  "m2g65h327m2gf6h304m2gf5h304m2g6fh307m2g22fh304m2g79h304m15dg3cah301m1cg3b1h301m1g3b5h301",
  "m1g3b7h301m1g3b9h301m1g3cbh301m1ag3b9h308m1g3c5h308m1g3bfh301m1g3c5h301m1g3c9h301m6bg438h306",
  "m17g435h300m1g435h308m2g433h301m4g456h308m5g43ah301m1g438h300m1g443h306m19g475h30fm4bg436h306",
  "mfg430h306m2g430h308m4g435h306m4g4d9h308m2g436h308m2g437h308m4g438h304m2g438h308m2g43eh308",
  "m4g4e9h308m2g44dh308m2g443h304m2g443h308m2g443h30bm2g447h308m4g44bh308m129g627h653m1g627h654",
  "m1g648h654m1g627h655m1g64ah654m9ag6d5h654m2g6c1h654m11g6d2h654m256g928h93cm8g930h93cm3g933h93c",
  "m97g9c7h9bem1g9c7h9d7m17cgb47hb56m3gb47hb3em1gb47hb57m48gb92hbd7m36gbc6hbbem1gbc7hbbe",
  "m1gbc6hbd7m7cgc46hc56m78gcbfhcd5m7gcc6hcd5m1gcc6hcd6m2gcc6hcc2m1gccahcd5m7fgd46hd3em1gd47hd3e",
  "m1gd46hd57m8egdd9hdcam2gdd9hdcfm1gddchdcam1gdd9hddfm248g1025h102emae0g1b05h1b35m2g1b07h1b35",
  "m2g1b09h1b35m2g1b0bh1b35m2g1b0dh1b35m4g1b11h1b35m29g1b3ah1b35m2g1b3ch1b35m3g1b3eh1b35",
  "m1g1b3fh1b35m2g1b42h1b35m2beg61h325m2g62h307m2g62h323m2g62h331m2ge7h301m2g64h307m2g64h323",
  "m2g64h331m2g64h327m2g64h32dm2g113h300m2g113h301m2g65h32dm2g65h330m2g229h306m2g66h307m2g67h304",
  "m2g68h307m2g68h323m2g68h308m2g68h327m2g68h32em2g69h330m2gefh301m2g6bh301m2g6bh323m2g6bh331",
  "m2g6ch323m2g1e37h304m2g6ch331m2g6ch32dm2g6dh301m2g6dh307m2g6dh323m2g6eh307m2g6eh323m2g6eh331",
  "m2g6eh32dm2gf5h301m2gf5h308m2g14dh300m2g14dh301m2g70h301m2g70h307m2g72h307m2g72h323m2g1e5bh304",
  "m2g72h331m2g73h307m2g73h323m2g15bh307m2g161h307m2g1e63h307m2g74h307m2g74h323m2g74h331m2g74h32d",
  "m2g75h324m2g75h330m2g75h32dm2g169h301m2g16bh308m2g76h303m2g76h323m2g77h300m2g77h301m2g77h308",
  "m2g77h307m2g77h323m2g78h307m2g78h308m2g79h307m2g7ah302m2g7ah323m2g7ah331m1g68h331m1g74h308",
  "m1g77h30am1g79h30am8g61h323m2g61h309m2ge2h301m2ge2h300m2ge2h309m2ge2h303m2g1ea1h302m2g103h301",
  "m2g103h300m2g103h309m2g103h303m2g1ea1h306m2g65h323m2g65h309m2g65h303m2geah301m2geah300",
  "m2geah309m2geah303m2g1eb9h302m2g69h309m2g69h323m2g6fh323m2g6fh309m2gf4h301m2gf4h300m2gf4h309",
  "m2gf4h303m2g1ecdh302m2g1a1h301m2g1a1h300m2g1a1h309m2g1a1h303m2g1a1h323m2g75h323m2g75h309",
  "m2g1b0h301m2g1b0h300m2g1b0h309m2g1b0h303m2g1b0h323m2g79h300m2g79h323m2g79h309m2g79h303",
  "m7g3b1h313m1g3b1h314m1g1f00h300m1g1f01h300m1g1f00h301m1g1f01h301m1g1f00h342m1g1f01h342",
  "m9g3b5h313m1g3b5h314m1g1f10h300m1g1f11h300m1g1f10h301m1g1f11h301mbg3b7h313m1g3b7h314",
  "m1g1f20h300m1g1f21h300m1g1f20h301m1g1f21h301m1g1f20h342m1g1f21h342m9g3b9h313m1g3b9h314",
  "m1g1f30h300m1g1f31h300m1g1f30h301m1g1f31h301m1g1f30h342m1g1f31h342m9g3bfh313m1g3bfh314",
  "m1g1f40h300m1g1f41h300m1g1f40h301m1g1f41h301mbg3c5h313m1g3c5h314m1g1f50h300m1g1f51h300",
  "m1g1f50h301m1g1f51h301m1g1f50h342m1g1f51h342m9g3c9h313m1g3c9h314m1g1f60h300m1g1f61h300",
  "m1g1f60h301m1g1f61h301m1g1f60h342m1g1f61h342m9g3b1h300m2g3b5h300m2g3b7h300m2g3b9h300m2g3bfh300",
  "m2g3c5h300m2g3c9h300m34g3b1h306m1g3b1h304m5g3b1h342m10g3b7h342mag3b9h306m1g3b9h304m1g3cah300",
  "m4g3b9h342m1g3cah342m9g3c5h306m1g3c5h304m1g3cbh300m2g3c1h313m1g3c1h314m1g3c5h342m1g3cbh342",
  "mfg3c9h342m1a4g2190h338m1g2192h338m13g2194h338m1fg21d0h338m1g21d4h338m1g21d2h338m35g2203h338",
  "m5g2208h338m3g220bh338m18g2223h338m2g2225h338m1bg223ch338m3g2243h338m3g2245h338m2g2248h338",
  "m17g3dh338m2g2261h338mbg224dh338m1g3ch338m1g3eh338m1g2264h338m1g2265h338m3g2272h338m1g2273h338",
  "m3g2276h338m1g2277h338m7g227ah338m1g227bh338m3g2282h338m1g2283h338m3g2286h338m1g2287h338",
  "m23g22a2h338m1g22a8h338m1g22a9h338m1g22abh338m31g227ch338m1g227dh338m1g2291h338m1g2292h338",
  "m7g22b2h338m1g22b3h338m1g22b4h338m1g22b5h338md5fg304bh3099m2g304dh3099m2g304fh3099m2g3051h3099",
  "m2g3053h3099m2g3055h3099m2g3057h3099m2g3059h3099m2g305bh3099m2g305dh3099m2g305fh3099",
  "m2g3061h3099m3g3064h3099m2g3066h3099m2g3068h3099m7g306fh3099m1g306fh309am2g3072h3099",
  "m1g3072h309am2g3075h3099m1g3075h309am2g3078h3099m1g3078h309am2g307bh3099m1g307bh309a",
  "m17g3046h3099mag309dh3099meg30abh3099m2g30adh3099m2g30afh3099m2g30b1h3099m2g30b3h3099",
  "m2g30b5h3099m2g30b7h3099m2g30b9h3099m2g30bbh3099m2g30bdh3099m2g30bfh3099m2g30c1h3099",
  "m3g30c4h3099m2g30c6h3099m2g30c8h3099m7g30cfh3099m1g30cfh309am2g30d2h3099m1g30d2h309a",
  "m2g30d5h3099m1g30d5h309am2g30d8h3099m1g30d8h309am2g30dbh3099m1g30dbh309am17g30a6h3099",
  "m3g30efh3099m1g30f0h3099m1g30f1h3099m1g30f2h3099m4g30fdh3099md4cbg105d2h307m1bg105dah307",
  "mab6g11099h110bam2g1109bh110bamfg110a5h110bam83g11131h11127m1g11132h11127m21cg11347h1133e",
  "m1g11347h11357m37g11382h113c9m2g11384h113bbm9g1138bh113c2m3g11390h113c9m34g113c2h113c2",
  "m2g113c2h113b8m1g113c2h113c9mf3g114b9h114bam1g114b9h114b0m2g114b9h114bdmfcg115b8h115af",
  "m1g115b9h115afm37dg11935h11930m47e9g1611eh1611em1g1611eh16129m1g1611eh1611fm1g16129h1611f",
  "m1g1611eh16120m1g16121h1611fm1g16122h1611fm1g16121h16120mc40g16d67h16d67m1g16d63h16d67",
  "m1g16d69h16d67"]

structure Pair where
  composed : Char
  first : Char
  second : Char

def pairsFrom : Nat → List Run → List Pair
  | n, distance :: first :: second :: rest =>
    let composed := n + distance.length
    ⟨Char.ofNat composed, Char.ofNat first.length, Char.ofNat second.length⟩ :: pairsFrom composed rest
  | _, _ => []

def pairs : List Pair := pairsFrom 0 (Run.ofRows rows)

/-- Takes a character apart, with as many steps as the deepest composition needs. -/
def decompose : Nat → Char → List Char
  | 0, c => [c]
  | steps + 1, c =>
    match pairs.find? (·.composed = c) with
    | some p => decompose steps p.first ++ [p.second]
    | none => [c]

/-- Puts a mark in front of marks of higher classes. The marks are listed from the last one. -/
def insertMark (c : Char) : List Char → List Char
  | [] => [c]
  | d :: ds =>
    if Mark.combiningClass c < Mark.combiningClass d then d :: insertMark c ds else c :: d :: ds

/-- Puts marks in the order of their classes. The list that is done starts with its last
character. -/
def arrange : List Char → List Char → List Char
  | done, [] => done.reverse
  | done, c :: cs =>
    if Mark.combiningClass c = 0 then arrange (c :: done) cs
    else
      let marks := done.takeWhile (Mark.combiningClass · ≠ 0)
      arrange (insertMark c marks ++ done.drop marks.length) cs

/-- The Hangul syllable of a leading consonant and a vowel, or of such a syllable and a trailing
consonant. -/
def syllable? (a b : Char) : Option Char :=
  let base := 0xAC00
  if 0x1100 ≤ a.toNat ∧ a.toNat ≤ 0x1112 ∧ 0x1161 ≤ b.toNat ∧ b.toNat ≤ 0x1175 then
    some (Char.ofNat (base + ((a.toNat - 0x1100) * 21 + (b.toNat - 0x1161)) * 28))
  else if base ≤ a.toNat ∧ a.toNat ≤ 0xD7A3 ∧ (a.toNat - base) % 28 = 0
      ∧ 0x11A8 ≤ b.toNat ∧ b.toNat ≤ 0x11C2 then
    some (Char.ofNat (a.toNat + (b.toNat - 0x11A7)))
  else none

def compose? (a b : Char) : Option Char :=
  (syllable? a b).or ((pairs.find? fun p => p.first = a ∧ p.second = b).map (·.composed))

/-- Puts characters together with the starter before them, unless a mark of no lower class stands
between. The marks since the starter are listed from the last one. -/
def join : Option Char → List Char → List Char → List Char
  | starter, marks, [] => starter.toList ++ marks.reverse
  | starter, marks, c :: cs =>
    let free := match marks with
      | [] => true
      | m :: _ => Mark.combiningClass m < Mark.combiningClass c
    match if free then starter.bind (compose? · c) else none with
    | some composed => join (some composed) marks cs
    | none =>
      if Mark.combiningClass c = 0 then starter.toList ++ marks.reverse ++ join (some c) [] cs
      else join starter (c :: marks) cs

def ofChars (cs : List Char) : List Char := join none [] (arrange [] (cs.flatMap (decompose 3)))

end GeoFleet.Text.Composition
