import LinkSurvey.Text.Packed

/-!
Canonical composition (normal form C) of text: characters are taken apart, combining marks are put
into the order of their classes, and what can be composed is composed again.
-/

namespace LinkSurvey.Text.Canonical

/-- Code points with their combining class: gap to the last entry, extent, class. -/
def classesFrom (start : Nat) : List Nat → List (Nat × Nat × Nat)
  | gap :: extent :: value :: rest =>
    (start + gap, start + gap + extent, value) :: classesFrom (start + gap + extent + 1) rest
  | _ => []

def classTable : Array (Nat × Nat × Nat) := (classesFrom 0 (Packed.numbers [
    "gYUmHAAoHAD8GAAoHAA4GAE8GABqGAD8GABqGAK8GAEBAD8GAHmHAAwHAAmHAC8GACmHAB8GBCmHAD8GAAmHAAoHAB8GAAmH",
    "AApHABqHAApHABqHAApHAMmHzIEmHpIA8GADmHAA8GACmHAA+GAA8GAFmHAF8GABmHAA8GABmHAA+GAAkHAAmHAAKAALAAMA",
    "ANAAOAAPAAQAARAASABTAAUAAVAAWBAXBAYAAZBAmHAA8GBASoCHmHAAeAAfAAgBwBAbAAcAAdAAeAAfAAgBAAhBAAiBABmH",
    "AB8GAEmHAA8GABmHAA8GQAjBlDGmHCDmHAA8GAAmHCBmHBA8GABmHAA8GjBAkBeAmHAA8GABmHAA8GABmHAC8GAAmHAB8GAA",
    "mHAA8GACmHAA8GAAmHAA8GAAmHAA8GAAmHAA8GABmHgFGmHAA8GAAmHJA8GYDmHBImHBCmHBEmHrBC8G7BBmHAC8GADmHqBE",
    "mHAE8GANmHBA8GABmHAA8GABmHAA8GACmHAC8GAAbAAcAAdACmHAA8GABmHAB8GAEmH8BAHQAJDAmHAA8GABmHnDAHQAJwBA",
    "mH9BAHQAJuDAHQAJuDAHQAJ/DAJuDAHQAJHA0CAA7ClDAHQAJtDBJQAJ8DAJtDBnDAAJNDrDsDB2DAAJND6DsCB8GbA8GBA8",
    "GBA4G3BAhEAAiEBAkEFDiECAiEBBmHAAJBBmH+BA8GwDAHBBJyCA8GvWCmH0dBJeAJ9EAJKAmHrGAkHvEA+GAAmHAA8G7GAm",
    "HAA8GnCAJUHmHCA8GwBEmHAF8GABmHAA8GBB8GABmHAB8GAEmHAA8GARmHAA8GCFmHAA8GADmHAAqHoCAHPAJmBAmHAA8GAG",
    "mH2BBJ6BAHLBJjCAH4ECmHBABAE8GABmHAD8GAAmHBGBEA8GGAmHDBmHmGBmHAA8GAGmHAA8GABmHAAqHAA2GAA8GAAqGAkB",
    "mHAAoHABkHAA8GAA6GAAmHAApHAA8GAAmHAA8GwWBmHABBADmHACBABmHEAmHDBBAAmHAA8GAAmHABBAD8GAAmH+/CCmHtEA",
    "JgDfmHqRA6GAAkHAAoHAA+GABgHpDBI0udAmHEJmHgBBmHwCBmH0IAJlBAJ3EAJbRmH5BC8GlBAJ/CAHMAJvHAmHBBmHAA8G",
    "CBmHFBmHBAmH0BAJ2HAJw5TAahYGmHAG8GABmHteA8GiHA8G1EEmHy0BA8GBAmHoBAmHAABAA8GEAJlFAmHAA8G9RDmHhCEm",
    "H9JBmHtCB8GBC8GmCB8GACmHAA8GAAmHAD8GxBAmHAA8GAAmHAA8GgGAJpBAJOAJ5BAJAAHlCCmHwBBJ+BAHsCAJJAHqDAJA",
    "AHyFAHAAJwCBHQAJYGmHDEmH5CCJxDAJDAHXAmHjDAJAAH7HAJAAH+DAJ2DAJAAHzDAJtIAJAAHiIBJEAH8EAJzCAJSAJxCA",
    "JlNAJiIAHBBJxCAJpNBJsvQAJguCEB7BGmH5lBBGslTABmmFB4GACBDAiHAE4GIH8GCEmHAB8GeDmH0ECmH7tDGmHBQmHCGm",
    "HBBmHBEmHkDAmHgFGmH3LAmH9BDmH8PBoHAA8GAAmH+HAmHAA8GzHAmHCAmHHBmHFAmH6OG8GtDFmHAAH"])).toArray

/-- Entries `gap, count, code points`: a code point and what it is taken apart into. -/
def expansionsFrom (fuel start : Nat) (numbers : List Nat) : List (Nat × List Char) :=
  match fuel, numbers with
  | fuel + 1, gap :: count :: rest =>
    (start + gap, (rest.take count).map Char.ofNat)
      :: expansionsFrom fuel (start + gap + 1) (rest.drop count)
  | _, _ => []

def expansions (lines : List String) : Array (Nat × List Char) :=
  let numbers := Packed.numbers lines
  (expansionsFrom numbers.length 0 numbers).toArray

def decompositionTable : Array (Nat × List Char) := expansions [
    "gGChCgYAChChYAChCiYAChCjYAChCoYAChCqYBCjCnZAClCgYAClChYAClCiYAClCoYACpCgYACpChYACpCiYACpCoYBCuCj",
    "YACvCgYACvChYACvCiYACvCjYACvCoYCC1CgYAC1ChYAC1CiYAC1CoYAC5ChYCChDgYAChDhYAChDiYAChDjYAChDoYAChDq",
    "YBCjDnZAClDgYAClDhYAClDiYAClDoYACpDgYACpDhYACpDiYACpDoYBCuDjYACvDgYACvDhYACvDiYACvDjYACvDoYCC1Dg",
    "YAC1DhYAC1DiYAC1DoYAC5DhYBC5DoYAChCkYAChDkYAChCmYAChDmYAChCoZAChDoZACjChYACjDhYACjCiYACjDiYACjCn",
    "YACjDnYACjCsYACjDsYACkCsYACkDsYCClCkYAClDkYAClCmYAClDmYAClCnYAClDnYAClCoZAClDoZAClCsYAClDsYACnCi",
    "YACnDiYACnCmYACnDmYACnCnYACnDnYACnCnZACnDnZACoCiYACoDiYCCpCjYACpDjYACpCkYACpDkYACpCmYACpDmYACpCo",
    "ZACpDoZACpCnYDCqCiYACqDiYACrCnZACrDnZBCsChYACsDhYACsCnZACsDnZACsCsYACsDsYECuChYACuDhYACuCnZACuDn",
    "ZACuCsYACuDsYDCvCkYACvDkYACvCmYACvDmYACvCrYACvDrYCCyChYACyDhYACyCnZACyDnZACyCsYACyDsYACzChYACzDh",
    "YACzCiYACzDiYACzCnZACzDnZACzCsYACzDsYAC0CnZAC0DnZAC0CsYAC0DsYCC1CjYAC1DjYAC1CkYAC1DkYAC1CmYAC1Dm",
    "YAC1CqYAC1DqYAC1CrYAC1DrYAC1CoZAC1DoZAC3CiYAC3DiYAC5CiYAC5DiYAC5CoYAC6ChYAC6DhYAC6CnYAC6DnYAC6Cs",
    "YAC6DsYhBCvC7YACvD7YNC1C7YAC1D7YcChCsYAChDsYACpCsYACpDsYACvCsYACvDsYAC1CsYAC1DsYAD1CoYkYAD1DoYkY",
    "AD1CoYhYAD1DoYhYAD1CoYsYAD1DoYsYAD1CoYgYAD1DoYgYBDhCoYkYADhDoYkYADhCnYkYADhDnYkYACmGkYACmHkYCCnC",
    "sYACnDsYACrCsYACrDsYACvCoZACvDoZADvCoZkYADvDoZkYAC3NsYACyUsYACqDsYDCnChYACnDhYCCuCgYACuDgYADhCqY",
    "hYADhDqYhYACmGhYACmHhYAC4GhYAC4HhYAChCvYAChDvYAChCxYAChDxYAClCvYAClDvYAClCxYAClDxYACpCvYACpDvYAC",
    "pCxYACpDxYACvCvYACvDvYACvCxYACvDxYACyCvYACyDvYACyCxYACyDxYAC1CvYAC1DvYAC1CxYAC1DxYACzCmZACzDmZAC",
    "0CmZAC0DmZCCoCsYACoDsYGChCnYAChDnYAClCnZAClDnZADvCoYkYADvDoYkYADvCjYkYADvDjYkYACvCnYACvDnYADvCnY",
    "kYADvDnYkYAC5CkYAC5DkYsIBgYABhYBBzYACoYhYvBB5VJB7BGCoFhYACxchYAB3FAC1chYAC3chYAC5chYBC/chYBCldhY",
    "ACpdhYAD5doYhYZC5coYACldoYACxdhYAC1dhYAC3dhYAC5dhYADleoYhYZC5doYACleoYAC/dhYAClehYACpehYECyehYAC",
    "yeoYrBC1gBgYAC1gBoYBCzgBhYDCmgBoYEC6gBhYAC4gBgYACjhBmYKC4gBmYfC4hBmYWC1hBgYAC1hBoYBCzhBhYDC2iBoY",
    "EC6hBhYAC4hBgYACjiBmYXC0jBvYAC1jBvYpCC2gBmYAC2hBmYNCwgBmYACwhBmYACwgBoYACwhBoYCC1gBmYAC1hBmYCC4m",
    "BoYAC5mBoYAC2gBoYAC2hBoYAC3gBoYAC3hBoYCC4gBkYAC4hBkYAC4gBoYAC4hBoYAC+gBoYAC+hBoYCConBoYACpnBoYAC",
    "thBoYACtiBoYACjhBkYACjiBkYACjhBoYACjiBoYACjhBrYACjiBrYACnhBoYACniBoYCCrhBoYACriBoYoJCnxBzyBACnxB",
    "0yBACoyB0yBACnxB1yBACqyB0yB5EC12B0yBBCh2B0yBQCy2B0yB1SCopC8pCHCwpC8pCCCzpC8pCjBC1oC8pCAC2oC8pCAC",
    "3oC8pCAC8oC8pCAChpC8pCACipC8pCACrpC8pCACvpC8pCrDCnuC+tCACnuC3uCPChtC8tCACitC8tCBCvtC8tCzCCyxC8xC",
    "CC4xC8xCiBC2wC8xCAC3wC8xCAC8wC8xCCCrxC8xCpHCn6C26CCCn6C+5CACn6C36CPCh5C85CACi5C85C2BCy8C3+C1BCm+",
    "C+9CACn+C+9CACm+C3+C7DCmiD2iD3DC/lD1mDGCmmD1mDACmmD2mDBCmmDimDADmmDimD1mD+DCmqD+pDACnqD+pDACmqD3",
    "qDtEC5uDquDBC5uDvuDAD5uDvuDquDAC5uD/uDkLCi6D39DJCs6D39DECx6D39DEC26D39DEC76D39DMCg6D19DJCx7Dy7DB",
    "Cx7D07DACy9Dg8DBCz9Dg8DICx7Dg8DRCy8D39DJC88D39DECh9D39DECm9D39DECr9D39DMCw8D19DsDClhEuhE/2CCl4G1",
    "5GBCn4G15GBCp4G15GBCr4G15GBCt4G15GDCx4G15GoBC65G15GBC85G15GCC+5G15GAC/5G15GBCi6G15G8VChClZAChDlZ",
    "ACiCnYACiDnYACiCjZACiDjZACiCxZACiDxZADjCnZhYADjDnZhYACkCnYACkDnYACkCjZACkDjZACkCxZACkDxZACkCnZAC",
    "kDnZACkCtZACkDtZADlCkYgYADlDkYgYADlCkYhYADlDkYhYAClCtZAClDtZAClCwZAClDwZADlCnZmYADlDnZmYACmCnYAC",
    "mDnYACnCkYACnDkYACoCnYACoDnYACoCjZACoDjZACoCoYACoDoYACoCnZACoDnZACoCuZACoDuZACpCwZACpDwZADpCoYhY",
    "ADpDoYhYACrChYACrDhYACrCjZACrDjZACrCxZACrDxZACsCjZACsDjZADsCjZkYADsDjZkYACsCxZACsDxZACsCtZACsDtZ",
    "ACtChYACtDhYACtCnYACtDnYACtCjZACtDjZACuCnYACuDnYACuCjZACuDjZACuCxZACuDxZACuCtZACuDtZADvCjYhYADvD",
    "jYhYADvCjYoYADvDjYoYADvCkYgYADvDkYgYADvCkYhYADvDkYhYACwChYACwDhYACwCnYACwDnYACyCnYACyDnYACyCjZAC",
    "yDjZADyCjZkYADyDjZkYACyCxZACyDxZACzCnYACzDnYACzCjZACzDjZADzChYnYADzDhYnYADzCsYnYADzDsYnYADzCjZnY",
    "ADzDjZnYAC0CnYAC0DnYAC0CjZAC0DjZAC0CxZAC0DxZAC0CtZAC0DtZAC1CkZAC1DkZAC1CwZAC1DwZAC1CtZAC1DtZAD1C",
    "jYhYAD1DjYhYAD1CkYoYAD1DkYoYAC2CjYAC2DjYAC2CjZAC2DjZAC3CgYAC3DgYAC3ChYAC3DhYAC3CoYAC3DoYAC3CnYAC",
    "3DnYAC3CjZAC3DjZAC4CnYAC4DnYAC4CoYAC4DoYAC5CnYAC5DnYAC6CiYAC6DiYAC6CjZAC6DjZAC6CxZAC6DxZACoDxZAC",
    "0DoYAC3DqYAC5DqYBC/LnYEChCjZAChDjZAChCpYAChDpYADhCiYhYADhDiYhYADhCiYgYADhDiYgYADhCiYpYADhDiYpYAD",
    "hCiYjYADhDiYjYADhCjZiYADhDjZiYADhCmYhYADhDmYhYADhCmYgYADhDmYgYADhCmYpYADhDmYpYADhCmYjYADhDmYjYAD",
    "hCjZmYADhDjZmYAClCjZAClDjZAClCpYAClDpYAClCjYAClDjYADlCiYhYADlDiYhYADlCiYgYADlDiYgYADlCiYpYADlDiY",
    "pYADlCiYjYADlDiYjYADlCjZiYADlDjZiYACpCpYACpDpYACpCjZACpDjZACvCjZACvDjZACvCpYACvDpYADvCiYhYADvDiY",
    "hYADvCiYgYADvDiYgYADvCiYpYADvDiYpYADvCiYjYADvDiYjYADvCjZiYADvDjZiYADvC7YhYADvD7YhYADvC7YgYADvD7Y",
    "gYADvC7YpYADvD7YpYADvC7YjYADvD7YjYADvC7YjZADvD7YjZAC1CjZAC1DjZAC1CpYAC1DpYAD1C7YhYAD1D7YhYAD1C7Y",
    "gYAD1D7YgYAD1C7YpYAD1D7YpYAD1C7YjYAD1D7YjYAD1C7YjZAD1D7YjZAC5CgYAC5DgYAC5CjZAC5DjZAC5CpYAC5DpYAC",
    "5CjYAC5DjYGCxdzYACxd0YADxdzYgYADxd0YgYADxdzYhYADxd0YhYADxdzYiaADxd0YiaACxczYACxc0YADxczYgYADxc0Y",
    "gYADxczYhYADxc0YhYADxczYiaADxc0YiaAC1dzYAC1d0YAD1dzYgYAD1d0YgYAD1dzYhYAD1d0YhYCC1czYAC1c0YAD1czY",
    "gYAD1c0YgYAD1czYhYAD1c0YhYCC3dzYAC3d0YAD3dzYgYAD3d0YgYAD3dzYhYAD3d0YhYAD3dzYiaAD3d0YiaAC3czYAC3c",
    "0YAD3czYgYAD3c0YgYAD3czYhYAD3c0YhYAD3czYiaAD3c0YiaAC5dzYAC5d0YAD5dzYgYAD5d0YgYAD5dzYhYAD5d0YhYAD",
    "5dzYiaAD5d0YiaAC5czYAC5c0YAD5czYgYAD5c0YgYAD5czYhYAD5c0YhYAD5czYiaAD5c0YiaAC/dzYAC/d0YAD/dzYgYAD",
    "/d0YgYAD/dzYhYAD/d0YhYCC/czYAC/c0YAD/czYgYAD/c0YgYAD/czYhYAD/c0YhYCClezYACle0YADlezYgYADle0YgYAD",
    "lezYhYADle0YhYADlezYiaADle0YiaBCld0YBDld0YgYBDld0YhYBDld0YiaACpezYACpe0YADpezYgYADpe0YgYADpezYhY",
    "ADpe0YhYADpezYiaADpe0YiaACpdzYACpd0YADpdzYgYADpd0YgYADpdzYhYADpd0YhYADpdzYiaADpd0YiaACxdgYACxdhY",
    "AC1dgYAC1dhYAC3dgYAC3dhYAC5dgYAC5dhYAC/dgYAC/dhYAClegYAClehYACpegYACpehYCDxdzYlaADxd0YlaAExdzYgY",
    "laAExd0YgYlaAExdzYhYlaAExd0YhYlaAExdzYialaAExd0YialaADxczYlaADxc0YlaAExczYgYlaAExc0YgYlaAExczYhY",
    "laAExc0YhYlaAExczYialaAExc0YialaAD3dzYlaAD3d0YlaAE3dzYgYlaAE3d0YgYlaAE3dzYhYlaAE3d0YhYlaAE3dzYia",
    "laAE3d0YialaAD3czYlaAD3c0YlaAE3czYgYlaAE3c0YgYlaAE3czYhYlaAE3c0YhYlaAE3czYialaAE3c0YialaADpezYla",
    "ADpe0YlaAEpezYgYlaAEpe0YgYlaAEpezYhYlaAEpe0YhYlaAEpezYialaAEpe0YialaADpdzYlaADpd0YlaAEpdzYgYlaAE",
    "pd0YgYlaAEpdzYhYlaAEpd0YhYlaAEpdzYialaAEpd0YialaACxdmYACxdkYADxdgYlaACxdlaADxdhYlaBCxdiaADxdiala",
    "ACxcmYACxckYACxcgYACxchYACxclaBB5dCCoFiaAD3dgYlaAC3dlaAD3dhYlaBC3diaAD3dialaAC1cgYAC1chYAC3cgYAC",
    "3chYAC3claAC/9HgYAC/9HhYAC/9HiaAC5dmYAC5dkYAD5doYgYAD5doYhYCC5diaAD5doYiaAC5cmYAC5ckYAC5cgYAC5ch",
    "YBC+/HgYAC+/HhYAC+/HiaAClemYAClekYADleoYgYADleoYhYAChezYAChe0YACleiaADleoYiaACldmYACldkYACldgYAC",
    "ldhYAChd0YACoFgYACoFhYABgDCDpegYlaACpelaADpehYlaBCpeiaADpeialaAC/cgYAC/chYACpdgYACpdhYACpdlaAB0F",
    "CBigIABjgIkJBpdDBrCAChCqYuDCwsI4ZACysI4ZSC0sI4ZeCwuI4ZAC0uI4ZACyuI4Z0BCjwI4ZECowI4ZCCrwI4ZXCjxI4",
    "ZBClxI4ZaC8xI4ZCCjyI4ZCClyI4ZBCoyI4ZWC9B4ZBChzI4ZKCtyI4ZAC8B4ZAC+B4ZACkzI4ZAClzI4ZCCyzI4ZACzzI4Z",
    "CC2zI4ZAC3zI4ZGC6zI4ZAC7zI4ZCCi0I4ZACj0I4ZCCm0I4ZACn0I4ZiBCi1I4ZACo1I4ZACp1I4ZACr1I4ZwBC8zI4ZAC9",
    "zI4ZACx0I4ZACy0I4ZGCy1I4ZACz1I4ZAC01I4ZAC11I4Z7BBogMABpgMx9BC92K4ZvrBCriM5kMBCtiM5kMBCviM5kMBCxi",
    "M5kMBCziM5kMBC1iM5kMBC3iM5kMBC5iM5kMBC7iM5kMBC9iM5kMBC/iM5kMBChjM5kMCCkjM5kMBCmjM5kMBCojM5kMGCvj",
    "M5kMACvjM6kMBCyjM5kMACyjM6kMBC1jM5kMAC1jM6kMBC4jM5kMAC4jM6kMBC7jM5kMAC7jM6kMWCmiM5kMJC9kM5kMNCrl",
    "M5kMBCtlM5kMBCvlM5kMBCxlM5kMBCzlM5kMBC1lM5kMBC3lM5kMBC5lM5kMBC7lM5kMBC9lM5kMBC/lM5kMBChmM5kMCCkm",
    "M5kMBCmmM5kMBComM5kMGCvmM5kMACvmM6kMBCymM5kMACymM6kMBC1mM5kMAC1mM6kMBC4mM5kMAC4mM6kMBC7mM5kMAC7m",
    "M6kMWCmlM5kMCCvnM5kMACwnM5kMACxnM5kMACynM5kMDC9nM5kMhgyBBoijBAB03ZABq2jBABomjBABx2bAByxTABl/UAB8",
    "8nBAB88nBABxqWABxukBABnsVABoqWAB2vYABpzdABl8fAB/xhBAB69hBAB4niBABvkkBABiwaAB7obAB5mcAB++cAB9hhBA",
    "BqrkBABxvmBABi0TAB17UABk4aAB7wcABtxhBAB+wnBABwqXABr/bABtuhBABkriBABp2YAB4ugBAB/giBABq2XAB34ZABqr",
    "bAB83cABumkBABm8TAB3tUAB+2UABkmZABz2aABwwcABn3dABhggBABmwhBAB8yhBABvvjBABy5lBABv7mBAB6vnBABskeAB",
    "/reABgtfABp+gBABk4kBAB/znBAB22iBAB/mWABk4XABgjfAB+jgBABizcABqmeABimjBAB33lBAB4mWABijXABzwaAB6ubA",
    "Bv4bABvpfAB3xfABrylBABy2UABrkgBAB8uUABsuUAB8weAB+tfABx/gBAB1zlBABg8iBABv2YABiwaAB+3iBAB5xTABn/WA",
    "BygYABn8cABwrdAB34UAB7neAB/9TABp9XABtwTABsmbAB4rZABipfABj+UAB+iWABh4dABpihBABq1iBAB69aABw9jBABok",
    "bAB+3YABl3gBABg9YABlrdABu1TABprUABpuUABhkaABnnfABvzgBABy2iBABvukBAB13UABiiVABzrWABs3XABluZAB+/bA",
    "BqpeABttlBABqzmBAB30nBABu2nBAB70UABm2ZAB37aABi7jBAB0zXABwsYABgwYAB6kZABj5bABpqcABpkdABqueAB0vfAB",
    "vjgBABm5jBABunhBABjhkBABq6kBAB3wUABj1UAB9lVABomcABimiBABq1iBABp2XAB1/XAB77YABu9aAB+hfAB17cABk3TA",
    "B53VABn/WAB6tXAB8gYABy9cABpjdAB68fABmigBAB0xkBAB23lBABo6lBAB4gmBABr8TAButeAB0tkBAB41lBABhnYABm0T",
    "AB6mUABu/WAB/hXAB5sZABiwaABuucABiydAB8nhBAB8jkBABt8nBABo0ZABuxlBABp0UAB77ZABz/ZABhqbAB80bABpgdAB",
    "5qdABrjeABwofAB+imBABtrUABuxYAB4zlBABrhUAB5oXABqvbABq5jBABr8XABkqYAB3gaABn8cABm0lBABpxUABvgVABlj",
    "XABzwZABu6ZABolaABlnbABmgdABivdAB57fABvmiBABhniBABsukBABi3lBAB/5UAB61bAB9gVABwucAB4kdAB6vhBABj1l",
    "BAB3inBAB/0nBAB38ZABrubABovgBABr2eABg5eABykfABg2cAB5kcAB46iBABg2TAB25gBAB6xUABnwUABm1XABz2YAB2mf",
    "ABl8WAB+obAB01ZAB75jBABsiiBABtylBABrsiBABz2XABgqUABguVCB6iWBB0zZCB+uUABq5cABq2dAB8peAB+qeABlreAB",
    "vseAB26lBAB+lfAB99fBBywhBBB43iBCB4hkBAB9nkBDBvnmBAB8nmBABopmBAB0tnBAB+mkBAB31lBABu9TABnnUABtqUAB",
    "p2UABk3UABx6UAB9sVABmwVABozVABgiWABolWABkjXABujXAB0kYABorYABusYAByvYABvqZABivZABx0ZABlkaAB3rbAB6",
    "wbABi5bABurcABrxcABihdABxkeAB+peABpqeABoqeABwqeAB2qeAB9qeABtseABuseABgyeABh0eABg+eAB0vfABpwfABhy",
    "fABy7fABlggBABtvgBAB5zgBAB5zgBAB3ihBABwoiBAB2siBABh4iBAB55iBABzmjBABoojBAB29jBAB4hkBABj3lBAB//lB",
    "AB7hmBAB1jYABu3wEAB4wgBCBmxTAB1tUABorUABg8TABlqUABgsUABn2UAB63UAB9sVAB1qVAB5sVABivVAB6iWABzlWABk",
    "qWAB0qWABizWABo5WABy2XAB52XABp7XABt9XAB4mYABuqYABooYABusYABgrYAByvYAB0xYABk+YAB8gZAByiZAB2qZAB0z",
    "ZAB34ZAB74ZAB26ZAB57aAB69aABhqbAB72bABr2bABi5bAB+gcABurcABn9dAB1xcABv1cABq5cABxjdABmodAB7pdAB9wd",
    "AB/wdABq2dAB72dAB03dABq6dABg6dABsmeABx1eABg+eAB7jfAB7qfAB0vfAB+5fABlggBABy6gBABv/gBAB57hBABhqiBA",
    "BmsiBAB2siBAB/1iBAB43iBABr2iBABh4iBAB+3iBABt3iBAB55iBABq8iBABoojBAB45jBAByjkBAB5skBAB2zkBAB8zlBA",
    "Bj3lBAB26lBAB7+lBAB//lBABrgmBAB7hmBABy4mBAB88nBABqiqEABkiqEAB1+sEAB98OAB4gQAB5hQABpy0EABwm3EABz2",
    "/EABj6nBABu8nBjCC5uB0tBBCyvB3tBKCpvBhuBACpvBiuBADpvB8tBhuBADpvB8tBiuBACwuB3tBACwuB4tBACwuB8tBACx",
    "uB8tBACyuB8tBACzuB8tBAC0uB8tBAC1uB8tBAC2uB8tBBC4uB8tBAC5uB8tBAC6uB8tBAC7uB8tBAC8uB8tBBC+uB8tBBCg",
    "vB8tBAChvB8tBBCjvB8tBACkvB8tBBCmvB8tBACnvB8tBACovB8tBACpvB8tBACqvB8tBAC1uB5tBACxuB/tBAC7uB/tBACk",
    "vB/tB6zCCyuhCnYaC6uhCnY11CC5kkC6lkCBC7kkC6lkCOCllkC6lkCiECxpkCnpkCACypkCnpkC7QCn6kC+5kCACn6kC36k",
    "C2BCi8kCp+kCBCk8kC79kCICr8kCi+kCCCw8kCp+kCzBCi+kCi+kCBCi+kC49kCACi+kCp+kCyHC5llC6llCAC5llCwllCBC",
    "5llC9llC7HC4tlCvtlCAC5tlCvtlC8bC1pmCwpmCo/RC+o4C+o4CAC+o4Cpp4CAC+o4C/o4CACpp4C/o4CAC+o4Cgp4CAD+o",
    "4C+o4C/o4CAD+o4Cpp4C/o4CAD+o4C+o4Cgp4C/hDCnr7Cnr7CACjr7Cnr7CADjr7Cnr7Cnr7Cz/YC3q0Dlr0DAC4q0Dlr0D",
    "AD4q0Dlr0Dur0DAD4q0Dlr0Dvr0DAD4q0Dlr0Dwr0DAD4q0Dlr0Dxr0DAD4q0Dlr0Dyr0D2CC5t0Dlr0DAC6t0Dlr0DAD5t0",
    "Dlr0Dur0DAD6t0Dlr0Dur0DAD5t0Dlr0Dvr0DAD6t0Dlr0Dvr0D/xpCB9xTAB4xTABhyTABipgEABg7TABu9TAB79TABigUA",
    "B6jUAB5kUABnnUABvmUAB+kNAB6xhEABtqUAB0qUABkrUAB3rUAB8ohEAB5lNABnrUABtsUABrqhEAB3sUABktUABs2TABst",
    "UAB1tUAB/ukFAB1vUABjwUAB/mNAB7xUABmyUAByzUAB3zUAB1oNABn2UABp2UABk3UAB63UABl4UABm4UAB34UABp6UABx6",
    "UAB66UABz7UAB97UAB/7UAB/7UAB/7UABsxiEABwjcABq+UAB/+UABj7iEABr/UABx/UABmgVAB+kVAB4hVABoiVABojVABi",
    "lVAB2nVABwoVABzqVABjrVABksVABksVAB5sVABrtVABztVABiuVAB24VABmwVAB34VABxyVAB0zVABnwUABunWABu+VAB0/",
    "VABtgWABr8VAByhWABxhWABslWABknlEABynWAB3nWABmoWAB6oWABipWABirWABo1lEABq3lEABsvWAB7wWABnxWAB4uWAB",
    "mzWABu3NAB83NABo4WAB+5WAB+5WABoumEABj+WAB4+WABn/WABz/WAB44mEAB//WABmgXABz6XABihXABh8NABgjXABujXA",
    "BgmXABtkXABkvnEABjqXABmvnEABurXABrrXAB8rXABhvXABivXABvhOAB9vXABoxXAB9xXABpzXABijOABjsoEAB8jOABw1",
    "XABz1XAB21XABq2XABy8oFAB+3XABx5oEABx5oEABhwgBABi5XABi5XABnmOAB41sEAB6u4EABi7XABr7XABjnOAB68XABt+",
    "XAB3+XAB5/XABhkYAB6pOAB8oOAB0kYAB02pEABnmYABoqYABsqYABuqYABsqYAB6rYABusYABytYABktYABvtYAB+uYAByv",
    "YAB2vYABwwYAB7wYAB9yYABx1YAB02YABw6YABs4qEAB95YAB83YABo7YABj8YABk/YABx/qEABihZABl+YABp9YABuxOABp",
    "jZAB+jZAB9kZAB3jZABszOABvqZABsrZABqgsEABjvZAB43ZABpyZAB54OABx0ZABo4OABk3OABysUAB1sUABg4ZAB80ZABt",
    "lgBAB5+QAB34ZAB74ZABh5ZAB+6ZABz6ZABj+sEABp6OAB6/ZABl8ZAByiaABlkaABtjtEABukaAB/gaAB0oaAB98OABiqaA",
    "BjtaABqvaABo1aABj1tEAB72aAB4gPABh5aABnluEAB06aABuiPABy7aAB/8aAB69aAB79aABt0uEABronEAB63uEABuibAB",
    "8lvEAB/lbABtmbABnjbAB2obAB+pbAB3rbABhqbABprbAB4rbABlsbAB+ovEAB0pbABvxbABuzbABzpPABr2bABn2bABx2vE",
    "AB5vbABu7bAB+6vEABu8vEABm+bAB5hcAB+gcAB7gcAB2sPABqicAB9jcAB3jcABtlcABlphEABlqcABjzwEAB8scABr9wEA",
    "BoxcAB1xcABwycABowxEABg0cAB10cAB15xEAB0gyEAB67cABr8cABs1PABl9cAB41PAB41PABnidAB8idABxjdABlkdABqm",
    "dAB74PABkpdAB2hzEAB+pdABykzEABwrdAB/soEABwwdABh9zEAB49zEABki0EAB8/PABogQAB03dABzn0EAByn0EAB5o0EA",
    "Bzp0EAB+4dAB/4dAB/4dABq6dAB5hQABr8dABmiQAB2kQAB9g1EABuieABskeABsmeABjnQABmx1EAB2qeAB601EABl21EAB",
    "vseABrveABvpQABgyeABqyeABvyeAB8r2EABn12EABn12EABu3eABiwQABr92EABm+eABp+eABnxQABgk3EABymfABg1QABo",
    "nfABjnfABgofABm83EABjrfABh4QABnufABiwfABlyfAB05QABox4EABny4EAB56QAB524EAB67fAB+54EAB18fAB6/fABlg",
    "gBAB6m5EABjp5EABgjgBABot5EABwjgBAB/6sEAB1+QABylgBABjogBABrgRAB+pgBAB11WABn95EAB195EABz8sEAB88sEA",
    "BhwgBABkwgBAB+8jBABrjRABx0gBABr0gBAB90gBABz1UABx1gBABz1gBAB91gBABm3gBAB856EABl3gBAB94gBABj7gBABt",
    "9gBABj5gBAB99gBABn/gBAB3ihBABz6gBABq+gBABs+gBAB8+gBAB2h7EABrr7EAB1m7EABrpRABxnhBABznhBAB2ohBABq+",
    "8EABkrhBABs57EAB9qRABhrRABx97EABym8EABrrRABwyhBAB8yhBABnzhBABpzhBABp1hBABo0hBABu4hBABi3hBAB57hBA",
    "Bo5hBABr7hBABm8hBAB3uRABh/hBABhgiBAB5vRABgjiBABjjiBABnz9EAB3miBAB+miBAB1xRAB6niBAB7lNABul+EABmr+",
    "EAB+1RABn2RABg1iBABt3iBABq8iBAB1ijBABol/EABrljBABhmjBAB7ojBAB3rjBABv5/EABkgiEABrujBAB8tjBABwvjBA",
    "B+miEAB02jBAB45jBAByuhFABtvhFAB0kkBABxnkBABxokBABu5hFAB7okBAB4xkBAB32kBAB42kBAB8zkBAB5/kBAB1glBA",
    "B6/iFABrslBAB1sSAB3tlBAB3rjFABmvSABj2lBABytXABj5lBABlqkFAB6wkFABuzSAB2zSABg/lBABqglFABy1SAB2klFA",
    "BrgmBABrgmBABphmBAB2tlFABinmBABz5SABppmBABntmBABiumBAB+vmBABu+SABw5mFABy4mBABginBAB9nnBABumTABtn",
    "TABnrnBABumoFAB4nTABlooFABuwoFABx0oFAB71nBAB2qTAB53nBAB+3nBABl4nBABv4nBAB24nBAB75nBABgwpF"]

/-- Entries `gap, second, composed` in the order of the first character. -/
def pairsFrom (start : Nat) : List Nat → List (Nat × Nat × Nat)
  | gap :: second :: composed :: rest =>
    (start + gap, second, composed) :: pairsFrom (start + gap) rest
  | _ => []

def pairTable : Array (Nat × Nat × Nat) := (pairsFrom 0 (Packed.numbers [
    "8B4ZuzIB4ZgzIB4ZvzIDgYgGAhYhGAiYiGAjYjGAkYgIAmYiIAnYmRAoYkGApYi1HAqYlGAsYtOAvYgQAxYiQAjZg1HAlZgw",
    "HAoZkIBnYiwHAjZkwHAxZmwHBhYmIAiYoIAnYqIAsYsIAnZnGBnYqwHAsYuIAjZswHAnZwwHAtZywHAxZuwHBgYoGAhYpGAi",
    "YqGAjY81HAkYyIAmY0IAnY2IAoYrGApY61HAsY6IAvYkQAxYmQAjZ41HAnZoRAoZ4IAtZ4wHAwZ6wHBnY+wHBhY0PAiY8IAk",
    "YgxHAmY+IAnYgJAsYmPAnZiJBiYkJAnYixHAoYmxHAsY+QAjZkxHAnZoxHAuZqxHBgYsGAhYtGAiYuGAjYoJAkYqJAmYsJAn",
    "YwJAoYvGApYo2HAsYvOAvYoQAxYqQAjZq2HAoZuJAwZsxHBiY0JBhYwxHAsYoPAjZyxHAnZ2JAxZ0xHBhY5JAsY9JAjZ2xHA",
    "nZ7JAtZ8xHAxZ6xHBhY+xHAnYgyHAjZiyHBgY4PAhYjKAjYxGAnYkyHAsYnKAjZmyHAnZlKAtZqyHAxZoyHBgYyGAhYzGAiY",
    "0GAjY1GAkYsKAmYuKAnYuRAoY2GApYu2HArYwKAsYxOAvYsQAxYuQA7YgNAjZs2HAoZqPBhY0yHAnY2yHChY0KAnY4yHAsY4",
    "KAvYwQAxYyQAjZ6yHAnZ2KAxZ+yHBhY6KAiY8KAnYgzHAsYgLAjZizHAmZ4QAnZ+KBnYqzHAsYkLAjZszHAmZ6QAnZiLAtZw",
    "zHAxZuzHBgY5GAhY6GAiY7GAjYoLAkYqLAmYsLAoY8GApYm3HAqYuLArYwLAsYzOAvY0QAxY2QA7YvNAjZk3HAkZyzHAoZyL",
    "AtZ2zHAwZ0zHBjY8zHAjZ+zHBgYg0HAhYi0HAiY0LAnYm0HAoYk0HAjZo0HBnYq0HAoYs0HBgYy3HAhY9GAiY2LAjY43HAkY",
    "yRAnYu0HAoY4LApY23HAjZ03HBhY5LAiYw0HAnY7LAsY9LAjZy0HAxZ00HHgYgHAhYhHAiYiHAjYjHAkYhIAmYjIAnYnRAoY",
    "kHApYj1HAqYlHAsYuOAvYhQAxYjQAjZh1HAlZhwHAoZlIBnYjwHAjZlwHAxZnwHBhYnIAiYpIAnYrIAsYtIAnZnHBnYrwHAs",
    "YvIAjZtwHAnZxwHAtZzwHAxZvwHBgYoHAhYpHAiYqHAjY91HAkYzIAmY1IAnY3IAoYrHApY71HAsY7IAvYlQAxYnQAjZ51HA",
    "nZpRAoZ5IAtZ5wHAwZ7wHBnY/wHBhY1PAiY9IAkYhxHAmY/IAnYhJAsYnPAnZjJBiYlJAnYjxHAoYnxHAsY/QAjZlxHAnZpx",
    "HAuZrxHAxZ20HBgYsHAhYtHAiYuHAjYpJAkYrJAmYtJAoYvHApYp2HAsYwOAvYpQAxYrQAjZr2HAoZvJAwZtxHBiY1JAsYwP",
    "BhYxxHAsYpPAjZzxHAnZ3JAxZ1xHBhY6JAsY+JAjZ3xHAnZ8JAtZ9xHAxZ7xHBhY/xHAnYhyHAjZjyHBgY5PAhYkKAjYxHAn",
    "YlyHAsYoKAjZnyHAnZmKAtZryHAxZpyHBgYyHAhYzHAiY0HAjY1HAkYtKAmYvKAnYvRAoY2HApYv2HArYxKAsYyOAvYtQAxY",
    "vQA7YhNAjZt2HAoZrPBhY1yHAnY3yHChY1KAnY5yHAsY5KAvYxQAxYzQAjZ7yHAnZ3KAxZ/yHBhY7KAiY9KAnYhzHAsYhLAj",
    "ZjzHAmZ5QAnZ/KBnYrzHAoY30HAsYlLAjZtzHAmZ7QAnZjLAtZxzHAxZvzHBgY5HAhY6HAiY7HAjYpLAkYrLAmYtLAoY8HAp",
    "Yn3HAqYvLArYxLAsY0OAvY1QAxY3QA7YwNAjZl3HAkZzzHAoZzLAtZ3zHAwZ1zHBjY9zHAjZ/zHBgYh0HAhYj0HAiY1LAnYn",
    "0HAoYl0HAqY40HAjZp0HBnYr0HAoYt0HBgYz3HAhY9HAiY3LAjY53HAkYzRAnYv0HAoY/HApY33HAqY50HAjZ13HBhY6LAiY",
    "x0HAnY8LAsY+LAjZz0HAxZ10HuBgYt/HAhYlcAiah+HagYm1HAhYk1HAjYq1HApYo1HCkY+OBhY6PBhY8PAkYiPBhYowHDgY",
    "g2HAhY+1HAjYk2HApYi2HFhYuxHFgYy2HAhYw2HAjY22HApY02HBhYsyHAkYsRAoYuyHBkYqRChY+PEgY7OAhY3OAkY1OAsY",
    "5OGgYn1HAhYl1HAjYr1HApYp1HCkY/OBhY7PBhY9PAkYjPBhYpwHDgYh2HAhY/1HAjYl2HApYj2HFhYvxHFgYz2HAhYx2HAj",
    "Y32HApY12HBhYtyHAkYtRAoYvyHBkYrRChY/PEgY8OAhY4OAkY2OAsY6OGgYw1HAhYu1HAjY01HApYy1HBgYx1HAhYv1HAjY",
    "11HApYz1HPgY0wHAhY2wHBgY1wHAhY3wH5BgYwyHAhYyyHBgYxyHAhYzyHNnYkzHBnYlzHFnYmzHBnYnzHHhY4zHBhY5zHBo",
    "Y6zHBoY7zHUnY70HhBgY82HAhY62HAjYg3HApY+2HAjZi3HBgY92HAhY72HAjYh3HApY/2HAjZj3HOgYq3HAhYo3HAjYu3HA",
    "pYs3HAjZw3HBgYr3HAhYp3HAjYv3HApYt3HAjZx3HHsYuPzBkYsPBkYtP7BkYgPBkYhPBmY8wHBmY9wHFkYwRBkYxRjDsYvP",
    "/HgY69HAhYmcAkY59HAmY49HAzYo4HA0Yp4HAla89HEgYo+HAhYocAzY44HA0Y54HCgYq+HAhYpcAzYo5HA0Yp5HAlas+HCg",
    "Y6+HAhYqcAkY5+HAmY4+HAoYqdAzY45HA0Y55HGgY4/HAhYscAzYo6HA0Yp6HC0Ys/HEgYq/HAhYucAkYp/HAmYo/HAoYrdA",
    "0Y56HEgY6/HAhYvcAzYo7HA0Yp7HAla8/HDla09HClak+HDgYw7HAhYsdAkYx9HAmYw9HAzYg4HA0Yh4HAia29HAlaz9HEgY",
    "y7HAhYtdAzYw4HA0Yx4HCgY07HAhYudAzYg5HA0Yh5HAiam+HAlaj+HCgY27HAhYvdAkYx+HAmYw+HAoYqeAzYw5HA0Yx5HA",
    "ia2+HGgY47HAhYseAzYg6HA0Yh6HCzYk/HA0Yl/HEgY67HAhYteAkYh/HAmYg/HAoYreAzYw6HA0Yx6HAiam/HEgY87HAhYu",
    "eAzYg7HA0Yh7HAia2/HAlaz/HBgYy+HAhYwcAia3+HBgYi/HAhYwdAian/HDla0/HEhYzeAoY0e0BoYngBKmYwmBAoYymBDh",
    "YjgBCgYggBAmY2mBAoYhgBBmYhmBAoY8mBBoY+mBBgYtgBAkYinBAmY5gBAoYknBChYsgBEoYmnBFkYunBAmYugBAoYwnBAr",
    "YynBEoY0nBEoY4nBCoYsnBDmYxmBAoYzmBDhYziBCgYwiBAmY3mBAoYxiBBmYimBAoY9mBBoY/mBBgY9iBAkYjnBAmY5hBAo",
    "YlnBChY8iBEoYnnBFkYvnBAmY+iBAoYxnBArYznBEoY1nBEoY5nBCoYtnBJoY3iBevY2jBBvY3jBjDoY6mBBoY7mBPoYqnBB",
    "oYrnB+JzyBixBA0yBjxBA1yBlxBhB0yBkxBC0yBmxB3D0yBi2BR0yBz2BD0yBg2BzS8pCppCI8pCxpCD8pC0pC0E+tCruCA3",
    "uCsuCgM+5Cr6CA26Co6CA36Cs6CrC3+C08C0B+9Cq+CA3+Cs+CB+9Cr+C/D2iDoiD5D1mDgmDHimDqmDA1mDnmDA2mDomDE1",
    "mDrmD8D+pDqqDA3qDsqDB+pDrqDyEquD6uDAvuD8uDA/uD+uDDquD9uDpSuhEmhEg3C15Gm4GC15Go4GC15Gq4GC15Gs4GC1",
    "5Gu4GE15Gy4GpB15G75GC15G95GC15Gg6GB15Gh6GD15Gj6G0XkY4xHBkY5xHjBkY8yHBkY9yHHnYozHBnYpzH9BiYs1HAmY",
    "21HBiYt1HAmY31HXiYm2HBiYn2HTiY42HBiY52HzBgYi4HAhYk4HAiam4HAlag8HBgYj4HAhYl4HAian4HAlah8HBlai8HBl",
    "aj8HBlak8HBlal8HBlam8HBlan8HBgYq4HAhYs4HAiau4HAlao8HBgYr4HAhYt4HAiav4HAlap8HBlaq8HBlar8HBlas8HBl",
    "at8HBlau8HBlav8HBgYy4HAhY04HBgYz4HAhY14HHgY64HAhY84HBgY74HAhY94HHgYi5HAhYk5HAiam5HAlaw8HBgYj5HAh",
    "Yl5HAian5HAlax8HBlay8HBlaz8HBla08HBla18HBla28HBla38HBgYq5HAhYs5HAiau5HAla48HBgYr5HAhYt5HAiav5HAl",
    "a58HBla68HBla78HBla88HBla98HBla+8HBla/8HBgYy5HAhY05HAia25HBgYz5HAhY15HAia35HHgY65HAhY85HAia+5HBg",
    "Y75HAhY95HAia/5HHgYi6HAhYk6HBgYj6HAhYl6HHgYq6HAhYs6HBgYr6HAhYt6HHgYy6HAhY06HAia26HBgYz6HAhY16HAi",
    "a36HIgY76HAhY96HAia/6HHgYi7HAhYk7HAiam7HAlag9HBgYj7HAhYl7HAian7HAlah9HBlai9HBlaj9HBlak9HBlal9HBl",
    "am9HBlan9HBgYq7HAhYs7HAiau7HAlao9HBgYr7HAhYt7HAiav7HAlap9HBlaq9HBlar9HBlas9HBlat9HBlau9HBlav9HBl",
    "ay9HElai+HIlay/H6Bla39HJgYt+HAhYu+HAiav+HHlan+HwBla3/HIgY9+HAhY++HAia/+HyM4Z6sIC4Z7sIC4ZutI8B4Zt",
    "uIC4ZvuIC4ZuuIvB4ZkwIF4ZpwID4ZswIY4ZkxIC4ZmxIX4ZhyIH4ZkyIC4ZnyID4ZpyIF4ZtzIU4ZizID4ZwzIB4ZxzIN4Z",
    "0zIB4Z1zID4Z4zIB4Z5zID4Zg0IB4Zh0IB4Zg3IB4Zh3IF4Zk0IB4Zl0ID4Zo0IB4Zp0IK4Zi3IB4Zj3IQ4Zs1IG4Zt1IB4Z",
    "u1IC4Zv1IH4Zq3IB4Zr3IB4Zs3IB4Zt3IxsD5kM0kMF5kMsiMC5kMuiMC5kMwiMC5kMyiMC5kM0iMC5kM2iMC5kM4iMC5kM6",
    "iMC5kM8iMC5kM+iMC5kMgjMC5kMijMD5kMljMC5kMnjMC5kMpjMH5kMwjMA6kMxjMD5kMzjMA6kM0jMD5kM2jMA6kM3jMD5k",
    "M5jMA6kM6jMD5kM8jMA6kM9jMiB5kM+kMJ5kM0nMF5kMslMC5kMulMC5kMwlMC5kMylMC5kM0lMC5kM2lMC5kM4lMC5kM6lM",
    "C5kM8lMC5kM+lMC5kMgmMC5kMimMD5kMlmMC5kMnmMC5kMpmMH5kMwmMA6kMxmMD5kMzmMA6kM0mMD5kM2mMA6kM3mMD5kM5",
    "mMA6kM6mMD5kM8mMA6kM9mMU5kM3nMB5kM4nMB5kM5nMB5kM6nML5kM+nM1m1BnYpuhCInYkvhC/1C6lkC6kkCC6lkC8kkCK",
    "6lkCrlkCsEnpkCupkCBnpkCvpkC1Q+5kCr6kCA36kCs6kC7Bp+kCj8kCC79kCl8kCHi+kCu8kCFp+kCx8kCyB49kCn+kCAi+",
    "kCl+kCAp+kCo+kC3HwllC8llCA6llC7llCA9llC+llC/HvtlC6tlCBvtlC7tlC8bwpmC4pmCp/R+o4Chp4CA/o4Cjp4CAgp4",
    "Clp4CApp4Cip4CD/o4Cmp4CAgp4Cop4CB/o4Cnp4CH/o4Ckp4C6hDnr7Cpr7CEnr7Cor7CCnr7Cqr7C"])).toArray

/-- The combining class; 0 is that of a starter. -/
def combiningClass (c : Char) : Nat :=
  if c.toNat < 0x300 then 0
  else
    match classTable.find? fun (first, last, _) => first ≤ c.toNat && c.toNat ≤ last with
    | some (_, _, value) => value
    | none => 0

/-- The full canonical decomposition. Hangul syllables are taken apart by arithmetic. -/
def decompose (c : Char) : List Char :=
  let n := c.toNat
  if n < 0xC0 then [c]
  else if 0xAC00 ≤ n ∧ n ≤ 0xD7A3 then
    let s := n - 0xAC00
    let lead := Char.ofNat (0x1100 + s / 588)
    let vowel := Char.ofNat (0x1161 + s % 588 / 28)
    if s % 28 = 0 then [lead, vowel] else [lead, vowel, Char.ofNat (0x11A7 + s % 28)]
  else
    match decompositionTable.find? fun (code, _) => code == n with
    | some (_, parts) => parts
    | none => [c]

/-- The primary composite of a starter and the character after it, which is none of the characters
before the block of combining diacritics. -/
def composePair (a b : Char) : Option Char :=
  let m := a.toNat
  let n := b.toNat
  if n < 0x300 then none
  else if 0x1100 ≤ m ∧ m ≤ 0x1112 ∧ 0x1161 ≤ n ∧ n ≤ 0x1175 then
    some (Char.ofNat (0xAC00 + ((m - 0x1100) * 21 + (n - 0x1161)) * 28))
  else if 0xAC00 ≤ m ∧ m ≤ 0xD7A3 ∧ (m - 0xAC00) % 28 = 0 ∧ 0x11A8 ≤ n ∧ n ≤ 0x11C2 then
    some (Char.ofNat (m + (n - 0x11A7)))
  else
    (pairTable.find? fun (first, second, _) => first == m && second == n).map
      fun (_, _, composed) => Char.ofNat composed

/-- Marks between two starters stand in the order of their classes; equal classes keep their order. -/
def orderMarks (marks : List Char) : List Char → List Char
  | [] => sorted marks
  | c :: cs =>
    if combiningClass c = 0 then sorted marks ++ c :: orderMarks [] cs
    else orderMarks (marks ++ [c]) cs
where
  sorted (marks : List Char) : List Char :=
    marks.mergeSort fun a b => combiningClass a ≤ combiningClass b

/-- Compose towards `starter`. `held` are the marks after it that did not combine, last one first, and
`last` is the class of the last of them: a mark combines only past marks of lower class. -/
def composeFrom (starter : Option Char) (held : List Char) (last : Nat) : List Char → List Char
  | [] => starter.toList ++ held.reverse
  | c :: cs =>
    let k := combiningClass c
    match starter with
    | none => if k = 0 then composeFrom (some c) [] 0 cs else c :: composeFrom none [] 0 cs
    | some s =>
      match if held.isEmpty || last < k then composePair s c else none with
      | some p => composeFrom (some p) held last cs
      | none =>
        if k = 0 then s :: held.reverse ++ composeFrom (some c) [] 0 cs
        else composeFrom (some s) (c :: held) k cs

/-- Normal form C. -/
def compose (cs : List Char) : List Char :=
  composeFrom none [] 0 (orderMarks [] (cs.flatMap decompose))

end LinkSurvey.Text.Canonical
