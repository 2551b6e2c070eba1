import GeoFleet.Text.Runs

/-! Names of both directions. A name with a label that is written from the right must be read the same
way wherever it stands, so each of its labels keeps to one direction. -/
namespace GeoFleet.Url.Name

inductive Direction where
  | left
  | right
  | digit
  | arabicDigit
  | mark
  | neutral
  deriving DecidableEq, Repr

/-- Runs written from the left (`l`) or the right (`r`), of digits (`m`) and of Arabic digits (`n`), of
marks (`s`) and of neutral characters (`o`). Code points that no name may hold are counted to the
run before them. -/
def directionRows : List String := [
  "o9w5oew5ofmao27l1ao64l18o1l1c1o2l7oel2o1cl1o11s71l4o2l7fo2l8bs8lffo7s2dr1s1r1s2r1s2r1s9r36o2r1",
  "o2r1o1r1o2sbr30s15nao1n2r3s1r65s8o1s6r2s2o1s4r2mar17s1r1es1dr59sbr3as9r2o4r3s1r18s4r1s9r1s3r1",
  "s7r29s5r39s9r2as39l37s1l1s1l4s8l4s1l3sfl2s2l1ds1l3as1l4s6l6s1l14s4lco2l7o1l2s5l39s2l3s1bl14s2",
  "l3s1lbs2l39s1l4s8l4s3l12s4lbo8l1s8l3as1l2s1l1s6l6salbs4l1cs1l3ds1lcs3l23ods1l3s1l37s1l1s3l5s12",
  "las4l12o7l2s1l3as1lfs9lds4l1as2l39s2l4s5l7s1l14s4l1bs1l48s5l3s6l59s1l2sbo1l7s8l62s1l2s9lbs8l48",
  "s2l1bs1l1s1l1s1o4l33sel1s5l1s2l5s31l8s1l66s4l1s6l1s2l2s2l19s2l4s3l10s4lds1l2s2l6s1lfs1l2bfs3",
  "l30o10l60o1l29ao5l72s3l1ds2l1esel12sel37s7l8s1l2sbl7o1l1s3l10o20l75s2l22s1l76s3l4s2l9s1l6s7o6",
  "l98o22l17s2l2s3l38s1l1s9l1s1l2s8l6sdl30s54l30s1l1s5l1s1l5s1l28s9lcs2l20s4l2s2l1s3l38s1l1s2l3s1",
  "l1s3l3as8l2s5l95s3l1sdl1s7l4s1l6s1l3s2lc6s41l20boc4s34o4al3co1acl45o1al1o316l1o153l100o330lb5",
  "o7l3s4l6o7l7fs1l60s20o205l3o19l9s4l2o1l6o4l2o4l58s4l3o1l5ao1lc4o30l1bd0o40l5690o40l13do3l5fs4",
  "o1sao3l1ds2l50s2leo23l65o1l79s1l3s1l4s1l19s2l1o4s4l8o8l34ocl44sal12s12lds1l26s8l19sbl2es3l30s1",
  "l2s4l2s2l27s1l43s6l2s2l2sbl3s1l8s1l2fs1l33s1l1s3l2s2l5s2l1s1l2as2l8sbl69o56l25s1l2s1l4s3l4f2e",
  "s94r11o25ds25o2er18dl101o1l3eo4dl3o40l2ds83l60s1m1fl76sal480r11fo1re1sfr28s8ra5s6r4eo7r1e4sc",
  "n1ar1fs5o1rf1n20r2bs2r23o2as6r46sbr31s4r7al1s1l36sflbo14las1l2s2las3l31s4l2s2l7sel30s3l24s5l1",
  "s9l3ds1lcs2l34s9las4l2s1l5fs3l2s1l1s2l6s1l2s3fl5fs1l3sdl10s2l39s2l3s1l25s1al3bs7lcs1l1s1l1s1le",
  "s1fl38s8l2s3l1s1l17s1l54s6l1s1l4s2l1s2lees6l4s2l1s2l1bs24l33s8l2s1l1s2l1fo20l2bs1l1s1l2s6l1s1",
  "l65s3l2s4l1s9lffs9l1s2l100s2l1s1l4s1l90s8l4s1l20s6l2s2l28s6l2s4l8s9l1s6l2s3l2esdl1s2lc6s1l1s3",
  "l1s1lc9sel54s17l1s7l1s2l1s4bl31s15l1s9l40s3l2s1l1s1l15bs2lbs2l34s8l2s1l1s1l17s56l25o2al1441s1",
  "l6s19l2cbescl3s3l9c0s5l3bs7l418s1l3fs4l4fo1l1scl4cads2lf61o300s50l217s3l11s8l2s7l1es4l3bo59s3",
  "o7bl40o60l6a0s37l4s32l8s1les1l16s465l100s100l30s7l177s12l2cs4lfo1d1l1cs4lfes2lf3s1l2s1l7s2l5s9",
  "l102rd0s52r22s7r5a5o260l1do3l3do39l7aoda0lf0000"]

def directionRuns : List Text.Run := Text.Run.ofRows directionRows

def Direction.of (c : Char) : Direction :=
  match Text.Run.kindAt directionRuns c.toNat with
  | some 'l' => .left
  | some 'r' => .right
  | some 'm' => .digit
  | some 'n' => .arabicDigit
  | some 's' => .mark
  | _ => .neutral

def Direction.isRightward (d : Direction) : Bool := d = .right || d = .arabicDigit

/-- Whether a label keeps to one direction. It starts with a letter of that direction and ends, apart
from marks, with such a letter or a digit; from the right, it has digits of one sort only. -/
def keepsDirection (label : List Direction) : Bool :=
  let last := (label.reverse.dropWhile (· = .mark)).head?
  match label.head? with
  | none => true
  | some .left =>
    !label.any Direction.isRightward && (last = some .left || last = some .digit)
  | some .right =>
    !label.contains .left && last != some .neutral && !(label.contains .digit && label.contains .arabicDigit)
  | some _ => false

def areDirected (labels : List (List Char)) : Bool :=
  let directions := labels.map (·.map Direction.of)
  !directions.any (·.any Direction.isRightward) || directions.all keepsDirection

end GeoFleet.Url.Name
