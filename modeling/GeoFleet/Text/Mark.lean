import GeoFleet.Text.Runs

/-! Marks, which combine with the character before them. The combining class of a mark says where it
goes; marks of different classes may change places without a change of meaning. -/
namespace GeoFleet.Text.Mark

/-- Runs of marks (`m`) and of other code points (`o`). Code points that no name may hold are counted
to the run before them. -/
def rows : List String := [
  "o300m71o112m8o106m2do1m1o1m2o1m2o1m9o40mbo30m15o10m1o65m8o1m6o2m2o1m4o23m1o1em1do59mbo3am9o9m1",
  "o18m4o1m9o1m3o1m7o29m5o39m9o2am3ao36m3o1m12o1mfo2m2o1dm4o37m1o1m10o9m9o2m4o18m7o37m20o14m2o3m1",
  "obm4o37m1o1m12o12m4o14mbo37m1o1m21o3m4o1cm1o3bm12o7mfo1am5o37m1o1m1aoam4o1bm3o38m1o1m1eo6m4od",
  "m11o37m2o1m10o9m1oam4o1bm4o45m1cocm2o3dm1o2mbo8m8o62m1o2m9obm8o48m2o1bm1o1m1o1m1o4m2o31m14o1m2",
  "o5m31o8m1o64m14o17m4o4m3o1m3o2m7o3m4odmco1m1oam4o2bfm3o3b2mdo13m3o1dmeo12meo36m1eo9m3oa5m2o22",
  "m1o76m20od7m7o37m2bo30m55o2fm11o26m9ocm3o1emdo38m16o28m17o95m3o1m15o4m1o6m1o2m3oc6m41o2cfm34",
  "obebm4o8cm1o60m20o22am6o69m4o75d2m4o1mao20m2o50m2o110m1o3m1o4m1o17m5o4m4o50m2o32m1ao12m12odm1",
  "o26m8o19m18o21m4o2fmeo24m1o43m17o3m1o8m4o2bm3o32m1o1m3o2m2o5m2o1m1o29m5o5mcoe2m8o1m4o4f2em94",
  "o26em25o3b8m83o60m1o95mao681mfo28m8oa5m6o239mco39m5o13dm2o4dm6o46mbo31m4o7am3o35mfo29m1o2m2oa",
  "m4o2dmbo7meo30m3o24mfofm2o2cm1ocm3o30meo8m4o1m2o5cmco6m1o2m3fo5fm11o10m5o36m2o1m12o7m6o5m1eo38",
  "m19o1m1oem1fo35m12o17m1o51m14oebm12o1bm24o30m11o6amdo65m13ofcmfof5mfo1m1o1m2o8dm10o3m1co1mao28",
  "m7o1m4o8m9o1mbo2em10oc6m60o6fm11o52m6eo31m15o1m9o3ameo15bm4o9m2o1m1o30mfo17m56o1490m1o6m19",
  "o2cbem12o9c0m5o3bm7o418m1o1m42o51meo4cabm2o1261m50o215m5o3m16o2m7o1em4o94m3o7bbm37o4m32o8m1oe",
  "m1o16m465o100m100o30m7o177m12o2cm4o1fcm4ofem2of3m1o2m1o7m2o5m9o1d2m52o22m7"]

def runs : List Run := Run.ofRows rows

def holds (c : Char) : Bool := Run.kindAt runs c.toNat = some 'm'

/-- Combining classes, each followed by the number of code points in it. Code points that no name may
hold are counted to the run before them, and what comes after the last run has no class. -/
def classRows : List String := [
  "h0g300he6g15he8g1hdcg4he8g1hd8g1hdcg5hcag2hdcg4hcag2hdcgbh1g5hdcg4he6gahdcg3he6g3hdcg3he6g3",
  "hdcg4he6g1he8g1hdcg2he6g1he9g1heag2he9g1heag2he9g1he6geh0g112he6g5h0g109hdcg1he6g4hdcg1he6g3",
  "hdeg1hdcg1he6g6hdcg6he6g2hdcg1he6g2hdeg1he4g1he6g1hag1hbg1hcg1hdg1heg1hfg1h10g1h11g1h12g1h13g2",
  "h14g1h15g1h16g1h0g1h17g1h0g1h18g1h19g1h0g1he6g1hdcg1h0g1h12g9h0g40he6g8h1eg1h1fg1h20g1h0g30",
  "h1bg1h1cg1h1dg1h1eg1h1fg1h20g1h21g1h22g1he6g2hdcg2he6g5hdcg1he6g2hdcg1h0g10h23g1h0g65he6g8h0g1",
  "he6g4hdcg1he6g1h0g2he6g2h0g1hdcg1he6g2hdcg1h0g23h24g1h0g1ehe6g1hdcg1he6g2hdcg1he6g2hdcg3he6g1",
  "hdcg2he6g1hdcg1he6g3hdcg1he6g1hdcg1he6g1hdcg1he6g1hdcg1he6g4h0g9ehe6g7hdcg1he6g1h0g9hdcg1h0g18",
  "he6g4h0g1he6g9h0g1he6g3h0g1he6g7h0g29hdcg5h0g39he6g2hdcg3he6g4h0g2ahe6g5hdcg5he6gfhdcg1he6g2",
  "hdcg1he6g2hdcg1he6g3hdcg3h1bg1h1cg1h1dg1he6g3hdcg1he6g2hdcg2he6g5h0g3ch7g1h0g10h9g1h0g3he6g1",
  "hdcg1he6g2h0g67h7g1h0g10h9g1h0g30he6g3h0g3bh7g2h0gfh9g4h0g6bh7g1h0g10h9g3h0g6ch7g1h0g10h9g8",
  "h0g78h9g3h0g6ch7g1h0g10h9g8h54g1h5bg2h0g64h7g1h0g10h9g8h0g66h9g2h0g10h9g1h0g7ch9g5h0g69h67g2",
  "h9g5h0g9h6bg4h0g6ch76g2h9g1h0gdh7ag4h0g4chdcg2h0g1bhdcg1h0g1hdcg1h0g1hd8g1h0g37h81g1h82g2h84g6",
  "h82g4h0g2h82g2he6g2h9g1h0g1he6g2h0g3ehdcg1h0g70h7g1h0g1h9g2h0g52hdcg1h0g2cfhe6g3h0g3b4h9gb",
  "h0g15h9g1h0g9dh9g1h0gahe6g3h0gc9he4g1h0g8fhdeg1he6g1hdcg5h0gd7he6g1hdcg1h0g47h9g1h0g14he6ga",
  "hdcg1h0g30he6g5hdcg6he6g2hdcg1h0g1hdcg2he6g2hdcg2he6g5hdcg1he6g12hdcg3he6g6hdcg1he6g4heag15",
  "h0g34h7g1h0gfh9g1h0g26he6g1hdcg1he6g7h0g36h9g2h0g3ah7g1h0gbh9gah0g3bh7g4h0g95he6g3h0g1h1g1",
  "hdcg5he6g2hdcg4he6g1h0g1h1g7h0g4hdcg1h0g6he6g1h0g3he6g2h0gc6he6g2hdcg1he6g7hdcg1he6g2heag1",
  "hd6g1hdcg1hcag1he6g25he8g1he4g2hdcg1hdag1he6g1he9g1hdcg1he6g1hdcg2h0g2cfhe6g2h1g2he6g4h1g3",
  "he6g2h0g4he6g1h0g3h1g2he6g1hdcg1he6g1h1g2hdcg4he6g14h0gbebhe6g4h0g8ch9g1h0g60he6g20h0g22ahdag1",
  "he4g1he8g1hdeg1he0g2h0g69h8g4h0g75d2he6g1h0g4he6gah0g20he6g2h0g50he6g2h0g114h9g1h0g25h9g4h0g94",
  "h9g1h0g1bhe6g12h0g39hdcg3h0g25h9gch0g54h7g1h0gch9g1h0gefhe6g1h0g1he6g2hdcg1h0g2he6g2h0g5he6g2",
  "h0g1he6g1h0g34h9gbh0gech9g3h0g4f2eh1ag94h0g26ehe6g7hdcg7he6g17h0g3b8hdcg83h0g60hdcg1h0g95he6ga",
  "h0g68dhdcg1h0g1he6g1h0g28he6g1h1g1hdcg5h9g1h0ga5he6g1hdcg5h0g239he6gch0g39he6g5h0g13dhe6g2",
  "h0g4dhdcg2h0g1hdcg3h0g46hdcg2he6g3hdcg1he6g1hdcg4h0g31he6g1hdcg1he6g1hdcg1h0gc0h9g1h0g29h9g1",
  "h0geh9g1h0g39h9g1h7g1h0g45he6g3h0g30h9g3h0g3dh7g1h0g4ch9g1h0g9h7g1h0g6ah9g1h7g1h0gb2h7g1h9g6",
  "h0g4bh7g2h0g10h9g3h0g16he6g1ah0g4eh9g3h0g71h9g1h0g3h7g1h0g17he6g1h0g63h9g1h7g1h0gfbh9g1h7g1",
  "h0g7eh9g1h0g76h9g1h7g1h0g73h9g5h0g109h9g1h7g1h0g102h9g2h0g4h7g1h0g9ch9g1h0g53h9g1h0g12h9g9",
  "h0g49h9g1h0g1a5h9g1h0g102h7g1h0g1h9g2h0g51h9g1h0g1a9h9g2h0g41ech9g1h0g9c0h1g5h0g3bhe6g7h0g4b9",
  "h6g2h0g4cach1g1h0g14c6hd8g2h1g3h0g3he2g1hd8gdhdcg8h0g2he6g5hdcg2h0g1ehe6g4h0g94he6g3h0gdbb",
  "he6g100h0g30he6g7h0g177he6g12h0g2che6g4h0g1fche8g2hdcg1he6g1h0gfehe6g1hdcg1h0gf3he6g1h0g2he6g1",
  "h0g7he6g2h0g5he6g9h0g1d2hdcg52h0g22he6g6h7g1"]

def classRuns : List Run → List (Nat × Nat)
  | number :: count :: rest => (number.length, count.length) :: classRuns rest
  | _ => []

def classes : List (Nat × Nat) := classRuns (Run.ofRows classRows)

def classIn : List (Nat × Nat) → Nat → Nat
  | [], _ => 0
  | (number, count) :: rest, n => if n < count then number else classIn rest (n - count)

/-- The combining class of a character, zero when it does not combine. -/
def combiningClass (c : Char) : Nat := classIn classes c.toNat

/-- A virama takes the vowel from the consonant before it. -/
def isVirama (c : Char) : Bool := combiningClass c = 9

end GeoFleet.Text.Mark
