import GeoFleet.Text.Mark

/-! Joiners without ink. They may stand in a label only where they change how it is written: after a
virama, or, for the one that keeps letters apart, between letters that would join. -/
namespace GeoFleet.Url.Name

/-- Runs of characters that join to the left (`l`), to the right (`r`) or on both sides (`d`), that
joins pass through (`t`), and that do not join (`n`). Code points that no name may hold are counted
to the run before them. -/
def joiningRows : List String := [
  "n300t71n112t8n106t2dn1t1n1t2n1t2n1t9n40tbn5d1n1r4d1r1d1r1d5r4ddn1d7r1d2t15ned2t1r3n5dfr12d26r1",
  "d2r9d1r1d1r1d2r2n1r1t8n1t6n2t2n1t4r2nad3n2d1n10r1t1d3r5d4r1d9r1d1r1d1r1d2r1t1dr1dbr3dfr2d4r1d1",
  "r2d3r2d6n26tbn19d21t9n9t1n18t4n1t9n1t3n1t7n10r1d5r2d1r1dar1d1r3t5n2d1n1d4n1r1d1r1an3d1n2d5r1d8",
  "t9dar3n1r1d2r2d6r1dfn1t39n37t1n1t1n4t8n4t1n3tfn2t2n1dt1n3at1n4t6n6t1n14t4n18t5n39t2n3t1bn14t2",
  "n3t1nbt2n39t1n4t8n4t3n12t4n14t8n3at1n2t1n1t6n6tanbt4n1ct1n3dt1nct3n30t1n3t1n37t1n1t3n5t12nat4",
  "n1bt1n3at1n2t1n6t1n5t9ndt4n1at2n39t2n4t5n7t1n14t4n1bt1n48t5n3t6n59t1n2tbn8t8n62t1n2t9nbt8n48t2",
  "n1bt1n1t1n1t1n37ten1t5n1t2n5t31n8t1n66t4n1t6n1t2n2t2n19t2n4t3n10t4ndt1n2t2n6t1nft1n2bft3n3b2t3",
  "n1dt2n1eten12ten37t7n8t1n2tbn9t3n27d1n18d60n5t2d22t1d6n70t3n4t2n9t1n6t7nd7t2n2t3n38t1n1t9n1t1",
  "n2t8n6tdn30t54n30t1n1t5n1t1n5t1n28t9nct2n20t4n2t2n1t3n38t1n1t2n3t1n1t3n3at8n2t5n95t3n1tdn1t7n4",
  "t1n6t1n3t2nc6t41n2cft34nbebt4n8ct1n60t20n22at4n6bt4n75d2t4n1tan20t2n50t2n110t1n3t1n4t1n19t2n5",
  "t4n10d32l1n51tan12t12ndt1n26t8n19tbn2et3n30t1n2t4n2t2n27t1n43t6n2t2n2tbn3t1n8t1n2ft1n33t1n1t3",
  "n2t2n5t2n1t1n2at2n8tbne4t1n2t1n4t3n4f2et94n26et25n3b8t83n60t1n95tan681tfn28t8n80d5r1n1r1n1r2n2",
  "l1r5d4l1d5r1d3r1n2r1t6d4r1n90d1r1d1r3d3r1d2r1d1r2d1r8n10r4d2n151l1d21r1d1tcn39t5n13dt2n15r1d2",
  "n1dan2at6n30d3r1d11n1tbd3r1n1bd4r2dct4n2ad1n1d2r3n1d1r2d2r1d2n1d1r2d1n4r1d1l15n21t1n36tfn29t1",
  "n2t2nat3n31t4n2t2n7ten30t3n24t5n1t9n3dt1nct2n34t9nat4n2t1n5ft3n2t1n1t2n6t1n2t3fn5ft1n3tdn10t2",
  "n39t2n3t1n25t1an3bt7nct1n1t1n1t1net1fn38t8n2t3n1t1n17t1n54t6n1t1n4t2n1t2neet6n4t2n1t2n1bt24n33",
  "t8n2t1n1t2n6at1n1t1n2t6n1t1n65t1n1t1n2t4n1t9nfft9n1t2n100t2n1t1n4t1n90t8n4t1n20tan28t6n2t4n8t9",
  "n1t6n2t3n2etdn1t2nc6t1n1t3n1t1nc9ten1t1n52t17n1t7n1t2n1t4bn31t15n1t9n40t3n2t1n1t1n15bt2nbt2n34",
  "t8n2t1n1t1n17t56n1490t1n6t19n2cbetcn3t3n9c0t5n3bt7n418t1n3ft4n51tcn4cadt2n1261t50n217t3n11t8n2",
  "t7n1et4n94t3n7bbt37n4t32n8t1net1n16t465n100t100n30t7n177t12n2ct4n1fct4nfet2nf3t1n2t1n7t2n5t9",
  "n1d2t52d22tc"]

def joiningRuns : List Text.Run := Text.Run.ofRows joiningRows

def joiningKind (c : Char) : Option Char := Text.Run.kindAt joiningRuns c.toNat

/-- Whether the next character that joins do not pass through joins on a side. -/
def joinsNext (side : Char) (cs : List Char) : Bool :=
  match cs.dropWhile (joiningKind · = some 't') with
  | c :: _ => joiningKind c = some side || joiningKind c = some 'd'
  | [] => false

def nonJoiner : Char := '\u200c'

def joiner : Char := '\u200d'

/-- Whether every joiner may stand where it stands. What is before is listed from its end. -/
def joinersFit : List Char → List Char → Bool
  | _, [] => true
  | before, c :: cs =>
    (if c = joiner then before.head?.any Text.Mark.isVirama
      else if c = nonJoiner then
        before.head?.any Text.Mark.isVirama || (joinsNext 'l' before && joinsNext 'r' cs)
      else true)
    && joinersFit (c :: before) cs

end GeoFleet.Url.Name
