import Flowgraph.Text.Property.Basic

/-!
# Binary properties

Properties that a character has or has not, and the version of the standard that each character came
with. Some properties are given by their characters and others by how they are put together.
-/

namespace Flowgraph.Property

/-- The properties that are given by their characters. -/
def basic : List NamedSet := [
  ⟨["ahex", "asciihexdigit"],
    ["30..39 41..46 61..66"]⟩,
  ⟨["bidic", "bidicontrol"],
    ["61C 200E..200F 202A..202E 2066..2069"]⟩,
  ⟨["bidim", "bidimirrored"],
    ["28..29 3C 3E 5B 5D 7B 7D AB BB F3A..F3D 169B..169C 2039..203A 2045..2046 207D..207E",
     "208D..208E 2140 2201..2204 2208..220D 2211 2215..2216 221A..221D 221F..2222 2224 2226",
     "222B..2233 2239 223B..224C 2252..2255 225F..2260 2262 2264..226B 226D..228C 228F..2292",
     "2298 22A2..22A3 22A6..22B8 22BE..22BF 22C9..22CD 22D0..22D1 22D6..22ED 22F0..22FF",
     "2308..230B 2320..2321 2329..232A 2768..2775 27C0 27C3..27C6 27C8..27C9 27CB..27CD",
     "27D3..27D6 27DC..27DE 27E2..27EF 2983..2998 299B..29A0 29A2..29AF 29B8 29C0..29C5 29C9",
     "29CE..29D2 29D4..29D5 29D8..29DC 29E1 29E3..29E5 29E8..29E9 29F4..29F9 29FC..29FD",
     "2A0A..2A1C 2A1E..2A21 2A24 2A26 2A29 2A2B..2A2E 2A34..2A35 2A3C..2A3E 2A57..2A58",
     "2A64..2A65 2A6A..2A6D 2A6F..2A70 2A73..2A74 2A79..2AA3 2AA6..2AAD 2AAF..2AD6 2ADC 2ADE",
     "2AE2..2AE6 2AEC..2AEE 2AF3 2AF7..2AFB 2AFD 2BFE 2E02..2E05 2E09..2E0A 2E0C..2E0D",
     "2E1C..2E1D 2E20..2E29 2E55..2E5C 3008..3011 3014..301B FE59..FE5E FE64..FE65 FF08..FF09",
     "FF1C FF1E FF3B FF3D FF5B FF5D FF5F..FF60 FF62..FF63 1D6DB 1D715 1D74F 1D789 1D7C3"]⟩,
  ⟨["cwcf", "changeswhencasefolded"],
    ["41..5A B5 C0..D6 D8..DF 100 102 104 106 108 10A 10C 10E 110 112 114 116 118 11A 11C 11E",
     "120 122 124 126 128 12A 12C 12E 130 132 134 136 139 13B 13D 13F 141 143 145 147 149..14A",
     "14C 14E 150 152 154 156 158 15A 15C 15E 160 162 164 166 168 16A 16C 16E 170 172 174 176",
     "178..179 17B 17D 17F 181..182 184 186..187 189..18B 18E..191 193..194 196..198 19C..19D",
     "19F..1A0 1A2 1A4 1A6..1A7 1A9 1AC 1AE..1AF 1B1..1B3 1B5 1B7..1B8 1BC 1C4..1C5 1C7..1C8",
     "1CA..1CB 1CD 1CF 1D1 1D3 1D5 1D7 1D9 1DB 1DE 1E0 1E2 1E4 1E6 1E8 1EA 1EC 1EE 1F1..1F2 1F4",
     "1F6..1F8 1FA 1FC 1FE 200 202 204 206 208 20A 20C 20E 210 212 214 216 218 21A 21C 21E 220",
     "222 224 226 228 22A 22C 22E 230 232 23A..23B 23D..23E 241 243..246 248 24A 24C 24E 345",
     "370 372 376 37F 386 388..38A 38C 38E..38F 391..3A1 3A3..3AB 3C2 3CF..3D1 3D5..3D6 3D8 3DA",
     "3DC 3DE 3E0 3E2 3E4 3E6 3E8 3EA 3EC 3EE 3F0..3F1 3F4..3F5 3F7 3F9..3FA 3FD..42F 460 462",
     "464 466 468 46A 46C 46E 470 472 474 476 478 47A 47C 47E 480 48A 48C 48E 490 492 494 496",
     "498 49A 49C 49E 4A0 4A2 4A4 4A6 4A8 4AA 4AC 4AE 4B0 4B2 4B4 4B6 4B8 4BA 4BC 4BE 4C0..4C1",
     "4C3 4C5 4C7 4C9 4CB 4CD 4D0 4D2 4D4 4D6 4D8 4DA 4DC 4DE 4E0 4E2 4E4 4E6 4E8 4EA 4EC 4EE",
     "4F0 4F2 4F4 4F6 4F8 4FA 4FC 4FE 500 502 504 506 508 50A 50C 50E 510 512 514 516 518 51A",
     "51C 51E 520 522 524 526 528 52A 52C 52E 531..556 587 10A0..10C5 10C7 10CD 13F8..13FD",
     "1C80..1C89 1C90..1CBA 1CBD..1CBF 1E00 1E02 1E04 1E06 1E08 1E0A 1E0C 1E0E 1E10 1E12 1E14",
     "1E16 1E18 1E1A 1E1C 1E1E 1E20 1E22 1E24 1E26 1E28 1E2A 1E2C 1E2E 1E30 1E32 1E34 1E36 1E38",
     "1E3A 1E3C 1E3E 1E40 1E42 1E44 1E46 1E48 1E4A 1E4C 1E4E 1E50 1E52 1E54 1E56 1E58 1E5A 1E5C",
     "1E5E 1E60 1E62 1E64 1E66 1E68 1E6A 1E6C 1E6E 1E70 1E72 1E74 1E76 1E78 1E7A 1E7C 1E7E 1E80",
     "1E82 1E84 1E86 1E88 1E8A 1E8C 1E8E 1E90 1E92 1E94 1E9A..1E9B 1E9E 1EA0 1EA2 1EA4 1EA6",
     "1EA8 1EAA 1EAC 1EAE 1EB0 1EB2 1EB4 1EB6 1EB8 1EBA 1EBC 1EBE 1EC0 1EC2 1EC4 1EC6 1EC8 1ECA",
     "1ECC 1ECE 1ED0 1ED2 1ED4 1ED6 1ED8 1EDA 1EDC 1EDE 1EE0 1EE2 1EE4 1EE6 1EE8 1EEA 1EEC 1EEE",
     "1EF0 1EF2 1EF4 1EF6 1EF8 1EFA 1EFC 1EFE 1F08..1F0F 1F18..1F1D 1F28..1F2F 1F38..1F3F",
     "1F48..1F4D 1F59 1F5B 1F5D 1F5F 1F68..1F6F 1F80..1FAF 1FB2..1FB4 1FB7..1FBC 1FC2..1FC4",
     "1FC7..1FCC 1FD8..1FDB 1FE8..1FEC 1FF2..1FF4 1FF7..1FFC 2126 212A..212B 2132 2160..216F",
     "2183 24B6..24CF 2C00..2C2F 2C60 2C62..2C64 2C67 2C69 2C6B 2C6D..2C70 2C72 2C75 2C7E..2C80",
     "2C82 2C84 2C86 2C88 2C8A 2C8C 2C8E 2C90 2C92 2C94 2C96 2C98 2C9A 2C9C 2C9E 2CA0 2CA2 2CA4",
     "2CA6 2CA8 2CAA 2CAC 2CAE 2CB0 2CB2 2CB4 2CB6 2CB8 2CBA 2CBC 2CBE 2CC0 2CC2 2CC4 2CC6 2CC8",
     "2CCA 2CCC 2CCE 2CD0 2CD2 2CD4 2CD6 2CD8 2CDA 2CDC 2CDE 2CE0 2CE2 2CEB 2CED 2CF2 A640 A642",
     "A644 A646 A648 A64A A64C A64E A650 A652 A654 A656 A658 A65A A65C A65E A660 A662 A664 A666",
     "A668 A66A A66C A680 A682 A684 A686 A688 A68A A68C A68E A690 A692 A694 A696 A698 A69A A722",
     "A724 A726 A728 A72A A72C A72E A732 A734 A736 A738 A73A A73C A73E A740 A742 A744 A746 A748",
     "A74A A74C A74E A750 A752 A754 A756 A758 A75A A75C A75E A760 A762 A764 A766 A768 A76A A76C",
     "A76E A779 A77B A77D..A77E A780 A782 A784 A786 A78B A78D A790 A792 A796 A798 A79A A79C",
     "A79E A7A0 A7A2 A7A4 A7A6 A7A8 A7AA..A7AE A7B0..A7B4 A7B6 A7B8 A7BA A7BC A7BE A7C0 A7C2",
     "A7C4..A7C7 A7C9 A7CB..A7CC A7D0 A7D6 A7D8 A7DA A7DC A7F5 AB70..ABBF FB00..FB06 FB13..FB17",
     "FF21..FF3A 10400..10427 104B0..104D3 10570..1057A 1057C..1058A 1058C..10592 10594..10595",
     "10C80..10CB2 10D50..10D65 118A0..118BF 16E40..16E5F 1E900..1E921"]⟩,
  ⟨["cwl", "changeswhenlowercased"],
    ["41..5A C0..D6 D8..DE 100 102 104 106 108 10A 10C 10E 110 112 114 116 118 11A 11C 11E 120",
     "122 124 126 128 12A 12C 12E 130 132 134 136 139 13B 13D 13F 141 143 145 147 14A 14C 14E",
     "150 152 154 156 158 15A 15C 15E 160 162 164 166 168 16A 16C 16E 170 172 174 176 178..179",
     "17B 17D 181..182 184 186..187 189..18B 18E..191 193..194 196..198 19C..19D 19F..1A0 1A2",
     "1A4 1A6..1A7 1A9 1AC 1AE..1AF 1B1..1B3 1B5 1B7..1B8 1BC 1C4..1C5 1C7..1C8 1CA..1CB 1CD",
     "1CF 1D1 1D3 1D5 1D7 1D9 1DB 1DE 1E0 1E2 1E4 1E6 1E8 1EA 1EC 1EE 1F1..1F2 1F4 1F6..1F8 1FA",
     "1FC 1FE 200 202 204 206 208 20A 20C 20E 210 212 214 216 218 21A 21C 21E 220 222 224 226",
     "228 22A 22C 22E 230 232 23A..23B 23D..23E 241 243..246 248 24A 24C 24E 370 372 376 37F",
     "386 388..38A 38C 38E..38F 391..3A1 3A3..3AB 3CF 3D8 3DA 3DC 3DE 3E0 3E2 3E4 3E6 3E8 3EA",
     "3EC 3EE 3F4 3F7 3F9..3FA 3FD..42F 460 462 464 466 468 46A 46C 46E 470 472 474 476 478 47A",
     "47C 47E 480 48A 48C 48E 490 492 494 496 498 49A 49C 49E 4A0 4A2 4A4 4A6 4A8 4AA 4AC 4AE",
     "4B0 4B2 4B4 4B6 4B8 4BA 4BC 4BE 4C0..4C1 4C3 4C5 4C7 4C9 4CB 4CD 4D0 4D2 4D4 4D6 4D8 4DA",
     "4DC 4DE 4E0 4E2 4E4 4E6 4E8 4EA 4EC 4EE 4F0 4F2 4F4 4F6 4F8 4FA 4FC 4FE 500 502 504 506",
     "508 50A 50C 50E 510 512 514 516 518 51A 51C 51E 520 522 524 526 528 52A 52C 52E 531..556",
     "10A0..10C5 10C7 10CD 13A0..13F5 1C89 1C90..1CBA 1CBD..1CBF 1E00 1E02 1E04 1E06 1E08 1E0A",
     "1E0C 1E0E 1E10 1E12 1E14 1E16 1E18 1E1A 1E1C 1E1E 1E20 1E22 1E24 1E26 1E28 1E2A 1E2C 1E2E",
     "1E30 1E32 1E34 1E36 1E38 1E3A 1E3C 1E3E 1E40 1E42 1E44 1E46 1E48 1E4A 1E4C 1E4E 1E50 1E52",
     "1E54 1E56 1E58 1E5A 1E5C 1E5E 1E60 1E62 1E64 1E66 1E68 1E6A 1E6C 1E6E 1E70 1E72 1E74 1E76",
     "1E78 1E7A 1E7C 1E7E 1E80 1E82 1E84 1E86 1E88 1E8A 1E8C 1E8E 1E90 1E92 1E94 1E9E 1EA0 1EA2",
     "1EA4 1EA6 1EA8 1EAA 1EAC 1EAE 1EB0 1EB2 1EB4 1EB6 1EB8 1EBA 1EBC 1EBE 1EC0 1EC2 1EC4 1EC6",
     "1EC8 1ECA 1ECC 1ECE 1ED0 1ED2 1ED4 1ED6 1ED8 1EDA 1EDC 1EDE 1EE0 1EE2 1EE4 1EE6 1EE8 1EEA",
     "1EEC 1EEE 1EF0 1EF2 1EF4 1EF6 1EF8 1EFA 1EFC 1EFE 1F08..1F0F 1F18..1F1D 1F28..1F2F",
     "1F38..1F3F 1F48..1F4D 1F59 1F5B 1F5D 1F5F 1F68..1F6F 1F88..1F8F 1F98..1F9F 1FA8..1FAF",
     "1FB8..1FBC 1FC8..1FCC 1FD8..1FDB 1FE8..1FEC 1FF8..1FFC 2126 212A..212B 2132 2160..216F",
     "2183 24B6..24CF 2C00..2C2F 2C60 2C62..2C64 2C67 2C69 2C6B 2C6D..2C70 2C72 2C75 2C7E..2C80",
     "2C82 2C84 2C86 2C88 2C8A 2C8C 2C8E 2C90 2C92 2C94 2C96 2C98 2C9A 2C9C 2C9E 2CA0 2CA2 2CA4",
     "2CA6 2CA8 2CAA 2CAC 2CAE 2CB0 2CB2 2CB4 2CB6 2CB8 2CBA 2CBC 2CBE 2CC0 2CC2 2CC4 2CC6 2CC8",
     "2CCA 2CCC 2CCE 2CD0 2CD2 2CD4 2CD6 2CD8 2CDA 2CDC 2CDE 2CE0 2CE2 2CEB 2CED 2CF2 A640 A642",
     "A644 A646 A648 A64A A64C A64E A650 A652 A654 A656 A658 A65A A65C A65E A660 A662 A664 A666",
     "A668 A66A A66C A680 A682 A684 A686 A688 A68A A68C A68E A690 A692 A694 A696 A698 A69A A722",
     "A724 A726 A728 A72A A72C A72E A732 A734 A736 A738 A73A A73C A73E A740 A742 A744 A746 A748",
     "A74A A74C A74E A750 A752 A754 A756 A758 A75A A75C A75E A760 A762 A764 A766 A768 A76A A76C",
     "A76E A779 A77B A77D..A77E A780 A782 A784 A786 A78B A78D A790 A792 A796 A798 A79A A79C",
     "A79E A7A0 A7A2 A7A4 A7A6 A7A8 A7AA..A7AE A7B0..A7B4 A7B6 A7B8 A7BA A7BC A7BE A7C0 A7C2",
     "A7C4..A7C7 A7C9 A7CB..A7CC A7D0 A7D6 A7D8 A7DA A7DC A7F5 FF21..FF3A 10400..10427",
     "104B0..104D3 10570..1057A 1057C..1058A 1058C..10592 10594..10595 10C80..10CB2",
     "10D50..10D65 118A0..118BF 16E40..16E5F 1E900..1E921"]⟩,
  ⟨["cwt", "changeswhentitlecased"],
    ["61..7A B5 DF..F6 F8..FF 101 103 105 107 109 10B 10D 10F 111 113 115 117 119 11B 11D 11F",
     "121 123 125 127 129 12B 12D 12F 131 133 135 137 13A 13C 13E 140 142 144 146 148..149 14B",
     "14D 14F 151 153 155 157 159 15B 15D 15F 161 163 165 167 169 16B 16D 16F 171 173 175 177",
     "17A 17C 17E..180 183 185 188 18C 192 195 199..19B 19E 1A1 1A3 1A5 1A8 1AD 1B0 1B4 1B6 1B9",
     "1BD 1BF 1C4 1C6..1C7 1C9..1CA 1CC 1CE 1D0 1D2 1D4 1D6 1D8 1DA 1DC..1DD 1DF 1E1 1E3 1E5",
     "1E7 1E9 1EB 1ED 1EF..1F1 1F3 1F5 1F9 1FB 1FD 1FF 201 203 205 207 209 20B 20D 20F 211 213",
     "215 217 219 21B 21D 21F 223 225 227 229 22B 22D 22F 231 233 23C 23F..240 242 247 249 24B",
     "24D 24F..254 256..257 259 25B..25C 260..261 263..266 268..26C 26F 271..272 275 27D 280",
     "282..283 287..28C 292 29D..29E 345 371 373 377 37B..37D 390 3AC..3CE 3D0..3D1 3D5..3D7",
     "3D9 3DB 3DD 3DF 3E1 3E3 3E5 3E7 3E9 3EB 3ED 3EF..3F3 3F5 3F8 3FB 430..45F 461 463 465 467",
     "469 46B 46D 46F 471 473 475 477 479 47B 47D 47F 481 48B 48D 48F 491 493 495 497 499 49B",
     "49D 49F 4A1 4A3 4A5 4A7 4A9 4AB 4AD 4AF 4B1 4B3 4B5 4B7 4B9 4BB 4BD 4BF 4C2 4C4 4C6 4C8",
     "4CA 4CC 4CE..4CF 4D1 4D3 4D5 4D7 4D9 4DB 4DD 4DF 4E1 4E3 4E5 4E7 4E9 4EB 4ED 4EF 4F1 4F3",
     "4F5 4F7 4F9 4FB 4FD 4FF 501 503 505 507 509 50B 50D 50F 511 513 515 517 519 51B 51D 51F",
     "521 523 525 527 529 52B 52D 52F 561..587 13F8..13FD 1C80..1C88 1C8A 1D79 1D7D 1D8E 1E01",
     "1E03 1E05 1E07 1E09 1E0B 1E0D 1E0F 1E11 1E13 1E15 1E17 1E19 1E1B 1E1D 1E1F 1E21 1E23 1E25",
     "1E27 1E29 1E2B 1E2D 1E2F 1E31 1E33 1E35 1E37 1E39 1E3B 1E3D 1E3F 1E41 1E43 1E45 1E47 1E49",
     "1E4B 1E4D 1E4F 1E51 1E53 1E55 1E57 1E59 1E5B 1E5D 1E5F 1E61 1E63 1E65 1E67 1E69 1E6B 1E6D",
     "1E6F 1E71 1E73 1E75 1E77 1E79 1E7B 1E7D 1E7F 1E81 1E83 1E85 1E87 1E89 1E8B 1E8D 1E8F 1E91",
     "1E93 1E95..1E9B 1EA1 1EA3 1EA5 1EA7 1EA9 1EAB 1EAD 1EAF 1EB1 1EB3 1EB5 1EB7 1EB9 1EBB",
     "1EBD 1EBF 1EC1 1EC3 1EC5 1EC7 1EC9 1ECB 1ECD 1ECF 1ED1 1ED3 1ED5 1ED7 1ED9 1EDB 1EDD 1EDF",
     "1EE1 1EE3 1EE5 1EE7 1EE9 1EEB 1EED 1EEF 1EF1 1EF3 1EF5 1EF7 1EF9 1EFB 1EFD 1EFF..1F07",
     "1F10..1F15 1F20..1F27 1F30..1F37 1F40..1F45 1F50..1F57 1F60..1F67 1F70..1F7D 1F80..1F87",
     "1F90..1F97 1FA0..1FA7 1FB0..1FB4 1FB6..1FB7 1FBE 1FC2..1FC4 1FC6..1FC7 1FD0..1FD3",
     "1FD6..1FD7 1FE0..1FE7 1FF2..1FF4 1FF6..1FF7 214E 2170..217F 2184 24D0..24E9 2C30..2C5F",
     "2C61 2C65..2C66 2C68 2C6A 2C6C 2C73 2C76 2C81 2C83 2C85 2C87 2C89 2C8B 2C8D 2C8F 2C91",
     "2C93 2C95 2C97 2C99 2C9B 2C9D 2C9F 2CA1 2CA3 2CA5 2CA7 2CA9 2CAB 2CAD 2CAF 2CB1 2CB3 2CB5",
     "2CB7 2CB9 2CBB 2CBD 2CBF 2CC1 2CC3 2CC5 2CC7 2CC9 2CCB 2CCD 2CCF 2CD1 2CD3 2CD5 2CD7 2CD9",
     "2CDB 2CDD 2CDF 2CE1 2CE3 2CEC 2CEE 2CF3 2D00..2D25 2D27 2D2D A641 A643 A645 A647 A649",
     "A64B A64D A64F A651 A653 A655 A657 A659 A65B A65D A65F A661 A663 A665 A667 A669 A66B A66D",
     "A681 A683 A685 A687 A689 A68B A68D A68F A691 A693 A695 A697 A699 A69B A723 A725 A727 A729",
     "A72B A72D A72F A733 A735 A737 A739 A73B A73D A73F A741 A743 A745 A747 A749 A74B A74D A74F",
     "A751 A753 A755 A757 A759 A75B A75D A75F A761 A763 A765 A767 A769 A76B A76D A76F A77A A77C",
     "A77F A781 A783 A785 A787 A78C A791 A793..A794 A797 A799 A79B A79D A79F A7A1 A7A3 A7A5",
     "A7A7 A7A9 A7B5 A7B7 A7B9 A7BB A7BD A7BF A7C1 A7C3 A7C8 A7CA A7CD A7D1 A7D7 A7D9 A7DB A7F6",
     "AB53 AB70..ABBF FB00..FB06 FB13..FB17 FF41..FF5A 10428..1044F 104D8..104FB 10597..105A1",
     "105A3..105B1 105B3..105B9 105BB..105BC 10CC0..10CF2 10D70..10D85 118C0..118DF",
     "16E60..16E7F 1E922..1E943"]⟩,
  ⟨["cwu", "changeswhenuppercased"],
    ["61..7A B5 DF..F6 F8..FF 101 103 105 107 109 10B 10D 10F 111 113 115 117 119 11B 11D 11F",
     "121 123 125 127 129 12B 12D 12F 131 133 135 137 13A 13C 13E 140 142 144 146 148..149 14B",
     "14D 14F 151 153 155 157 159 15B 15D 15F 161 163 165 167 169 16B 16D 16F 171 173 175 177",
     "17A 17C 17E..180 183 185 188 18C 192 195 199..19B 19E 1A1 1A3 1A5 1A8 1AD 1B0 1B4 1B6 1B9",
     "1BD 1BF 1C5..1C6 1C8..1C9 1CB..1CC 1CE 1D0 1D2 1D4 1D6 1D8 1DA 1DC..1DD 1DF 1E1 1E3 1E5",
     "1E7 1E9 1EB 1ED 1EF..1F0 1F2..1F3 1F5 1F9 1FB 1FD 1FF 201 203 205 207 209 20B 20D 20F 211",
     "213 215 217 219 21B 21D 21F 223 225 227 229 22B 22D 22F 231 233 23C 23F..240 242 247 249",
     "24B 24D 24F..254 256..257 259 25B..25C 260..261 263..266 268..26C 26F 271..272 275 27D",
     "280 282..283 287..28C 292 29D..29E 345 371 373 377 37B..37D 390 3AC..3CE 3D0..3D1",
     "3D5..3D7 3D9 3DB 3DD 3DF 3E1 3E3 3E5 3E7 3E9 3EB 3ED 3EF..3F3 3F5 3F8 3FB 430..45F 461",
     "463 465 467 469 46B 46D 46F 471 473 475 477 479 47B 47D 47F 481 48B 48D 48F 491 493 495",
     "497 499 49B 49D 49F 4A1 4A3 4A5 4A7 4A9 4AB 4AD 4AF 4B1 4B3 4B5 4B7 4B9 4BB 4BD 4BF 4C2",
     "4C4 4C6 4C8 4CA 4CC 4CE..4CF 4D1 4D3 4D5 4D7 4D9 4DB 4DD 4DF 4E1 4E3 4E5 4E7 4E9 4EB 4ED",
     "4EF 4F1 4F3 4F5 4F7 4F9 4FB 4FD 4FF 501 503 505 507 509 50B 50D 50F 511 513 515 517 519",
     "51B 51D 51F 521 523 525 527 529 52B 52D 52F 561..587 10D0..10FA 10FD..10FF 13F8..13FD",
     "1C80..1C88 1C8A 1D79 1D7D 1D8E 1E01 1E03 1E05 1E07 1E09 1E0B 1E0D 1E0F 1E11 1E13 1E15",
     "1E17 1E19 1E1B 1E1D 1E1F 1E21 1E23 1E25 1E27 1E29 1E2B 1E2D 1E2F 1E31 1E33 1E35 1E37 1E39",
     "1E3B 1E3D 1E3F 1E41 1E43 1E45 1E47 1E49 1E4B 1E4D 1E4F 1E51 1E53 1E55 1E57 1E59 1E5B 1E5D",
     "1E5F 1E61 1E63 1E65 1E67 1E69 1E6B 1E6D 1E6F 1E71 1E73 1E75 1E77 1E79 1E7B 1E7D 1E7F 1E81",
     "1E83 1E85 1E87 1E89 1E8B 1E8D 1E8F 1E91 1E93 1E95..1E9B 1EA1 1EA3 1EA5 1EA7 1EA9 1EAB",
     "1EAD 1EAF 1EB1 1EB3 1EB5 1EB7 1EB9 1EBB 1EBD 1EBF 1EC1 1EC3 1EC5 1EC7 1EC9 1ECB 1ECD 1ECF",
     "1ED1 1ED3 1ED5 1ED7 1ED9 1EDB 1EDD 1EDF 1EE1 1EE3 1EE5 1EE7 1EE9 1EEB 1EED 1EEF 1EF1 1EF3",
     "1EF5 1EF7 1EF9 1EFB 1EFD 1EFF..1F07 1F10..1F15 1F20..1F27 1F30..1F37 1F40..1F45",
     "1F50..1F57 1F60..1F67 1F70..1F7D 1F80..1FB4 1FB6..1FB7 1FBC 1FBE 1FC2..1FC4 1FC6..1FC7",
     "1FCC 1FD0..1FD3 1FD6..1FD7 1FE0..1FE7 1FF2..1FF4 1FF6..1FF7 1FFC 214E 2170..217F 2184",
     "24D0..24E9 2C30..2C5F 2C61 2C65..2C66 2C68 2C6A 2C6C 2C73 2C76 2C81 2C83 2C85 2C87 2C89",
     "2C8B 2C8D 2C8F 2C91 2C93 2C95 2C97 2C99 2C9B 2C9D 2C9F 2CA1 2CA3 2CA5 2CA7 2CA9 2CAB 2CAD",
     "2CAF 2CB1 2CB3 2CB5 2CB7 2CB9 2CBB 2CBD 2CBF 2CC1 2CC3 2CC5 2CC7 2CC9 2CCB 2CCD 2CCF 2CD1",
     "2CD3 2CD5 2CD7 2CD9 2CDB 2CDD 2CDF 2CE1 2CE3 2CEC 2CEE 2CF3 2D00..2D25 2D27 2D2D A641",
     "A643 A645 A647 A649 A64B A64D A64F A651 A653 A655 A657 A659 A65B A65D A65F A661 A663 A665",
     "A667 A669 A66B A66D A681 A683 A685 A687 A689 A68B A68D A68F A691 A693 A695 A697 A699 A69B",
     "A723 A725 A727 A729 A72B A72D A72F A733 A735 A737 A739 A73B A73D A73F A741 A743 A745 A747",
     "A749 A74B A74D A74F A751 A753 A755 A757 A759 A75B A75D A75F A761 A763 A765 A767 A769 A76B",
     "A76D A76F A77A A77C A77F A781 A783 A785 A787 A78C A791 A793..A794 A797 A799 A79B A79D",
     "A79F A7A1 A7A3 A7A5 A7A7 A7A9 A7B5 A7B7 A7B9 A7BB A7BD A7BF A7C1 A7C3 A7C8 A7CA A7CD A7D1",
     "A7D7 A7D9 A7DB A7F6 AB53 AB70..ABBF FB00..FB06 FB13..FB17 FF41..FF5A 10428..1044F",
     "104D8..104FB 10597..105A1 105A3..105B1 105B3..105B9 105BB..105BC 10CC0..10CF2",
     "10D70..10D85 118C0..118DF 16E60..16E7F 1E922..1E943"]⟩,
  ⟨["dash"],
    ["2D 58A 5BE 1400 1806 2010..2015 2053 207B 208B 2212 2E17 2E1A 2E3A..2E3B 2E40 2E5D 301C",
     "3030 30A0 FE31..FE32 FE58 FE63 FF0D 10D6E 10EAD"]⟩,
  ⟨["dep", "deprecated"],
    ["149 673 F77 F79 17A3..17A4 206A..206F 2329..232A E0001"]⟩,
  ⟨["dia", "diacritic"],
    ["5E 60 A8 AF B4 B7..B8 2B0..34E 350..357 35D..362 374..375 37A 384..385 483..487 559",
     "591..5BD 5BF 5C1..5C2 5C4..5C5 5C7 64B..652 657..658 6DF..6E0 6E5..6E6 6EA..6EC 730..74A",
     "7A6..7B0 7EB..7F5 818..819 898..89F 8C9..8D2 8E3..8FE 93C 94D 951..954 971 9BC 9CD A3C",
     "A4D ABC ACD AFD..AFF B3C B4D B55 BCD C3C C4D CBC CCD D3B..D3C D4D DCA E3A E47..E4C E4E",
     "EBA EC8..ECC F18..F19 F35 F37 F39 F3E..F3F F82..F84 F86..F87 FC6 1037 1039..103A",
     "1063..1064 1069..106D 1087..108D 108F 109A..109B 135D..135F 1714..1715 1734 17C9..17D3",
     "17DD 1939..193B 1A60 1A75..1A7C 1A7F 1AB0..1ABE 1AC1..1ACB 1B34 1B44 1B6B..1B73",
     "1BAA..1BAB 1BE6 1BF2..1BF3 1C36..1C37 1C78..1C7D 1CD0..1CE8 1CED 1CF4 1CF7..1CF9",
     "1D2C..1D6A 1D9B..1DBE 1DC4..1DCF 1DF5..1DFF 1FBD 1FBF..1FC1 1FCD..1FCF 1FDD..1FDF",
     "1FED..1FEF 1FFD..1FFE 2CEF..2CF1 2E2F 302A..302F 3099..309C 30FC A66F A67C..A67D A67F",
     "A69C..A69D A6F0..A6F1 A700..A721 A788..A78A A7F8..A7F9 A806 A82C A8C4 A8E0..A8F1",
     "A92B..A92E A953 A9B3 A9C0 A9E5 AA7B..AA7D AABF..AAC2 AAF6 AB5B..AB5F AB69..AB6B",
     "ABEC..ABED FB1E FE20..FE2F FF3E FF40 FF70 FF9E..FF9F FFE3 102E0 10780..10785 10787..107B0",
     "107B2..107BA 10A38..10A3A 10A3F 10AE5..10AE6 10D22..10D27 10D4E 10D69..10D6D 10EFD..10EFF",
     "10F46..10F50 10F82..10F85 11046 11070 110B9..110BA 11133..11134 11173 111C0 111CA..111CC",
     "11235..11236 112E9..112EA 1133B..1133C 1134D 11366..1136C 11370..11374 113CE..113D0",
     "113D2..113D3 113E1..113E2 11442 11446 114C2..114C3 115BF..115C0 1163F 116B6..116B7 1172B",
     "11839..1183A 1193D..1193E 11943 119E0 11A34 11A47 11A99 11C3F 11D42 11D44..11D45 11D97",
     "11F41..11F42 11F5A 13447..13455 1612F 16AF0..16AF4 16B30..16B36 16D6B..16D6C 16F8F..16F9F",
     "16FF0..16FF1 1AFF0..1AFF3 1AFF5..1AFFB 1AFFD..1AFFE 1CF00..1CF2D 1CF30..1CF46",
     "1D167..1D169 1D16D..1D172 1D17B..1D182 1D185..1D18B 1D1AA..1D1AD 1E030..1E06D",
     "1E130..1E136 1E2AE 1E2EC..1E2EF 1E5EE..1E5EF 1E8D0..1E8D6 1E944..1E946 1E948..1E94A"]⟩,
  ⟨["emoji"],
    ["23 2A 30..39 A9 AE 203C 2049 2122 2139 2194..2199 21A9..21AA 231A..231B 2328 23CF",
     "23E9..23F3 23F8..23FA 24C2 25AA..25AB 25B6 25C0 25FB..25FE 2600..2604 260E 2611",
     "2614..2615 2618 261D 2620 2622..2623 2626 262A 262E..262F 2638..263A 2640 2642 2648..2653",
     "265F..2660 2663 2665..2666 2668 267B 267E..267F 2692..2697 2699 269B..269C 26A0..26A1",
     "26A7 26AA..26AB 26B0..26B1 26BD..26BE 26C4..26C5 26C8 26CE..26CF 26D1 26D3..26D4",
     "26E9..26EA 26F0..26F5 26F7..26FA 26FD 2702 2705 2708..270D 270F 2712 2714 2716 271D 2721",
     "2728 2733..2734 2744 2747 274C 274E 2753..2755 2757 2763..2764 2795..2797 27A1 27B0 27BF",
     "2934..2935 2B05..2B07 2B1B..2B1C 2B50 2B55 3030 303D 3297 3299 1F004 1F0CF 1F170..1F171",
     "1F17E..1F17F 1F18E 1F191..1F19A 1F1E6..1F1FF 1F201..1F202 1F21A 1F22F 1F232..1F23A",
     "1F250..1F251 1F300..1F321 1F324..1F393 1F396..1F397 1F399..1F39B 1F39E..1F3F0",
     "1F3F3..1F3F5 1F3F7..1F4FD 1F4FF..1F53D 1F549..1F54E 1F550..1F567 1F56F..1F570",
     "1F573..1F57A 1F587 1F58A..1F58D 1F590 1F595..1F596 1F5A4..1F5A5 1F5A8 1F5B1..1F5B2 1F5BC",
     "1F5C2..1F5C4 1F5D1..1F5D3 1F5DC..1F5DE 1F5E1 1F5E3 1F5E8 1F5EF 1F5F3 1F5FA..1F64F",
     "1F680..1F6C5 1F6CB..1F6D2 1F6D5..1F6D7 1F6DC..1F6E5 1F6E9 1F6EB..1F6EC 1F6F0 1F6F3..1F6FC",
     "1F7E0..1F7EB 1F7F0 1F90C..1F93A 1F93C..1F945 1F947..1F9FF 1FA70..1FA7C 1FA80..1FA89",
     "1FA8F..1FAC6 1FACE..1FADC 1FADF..1FAE9 1FAF0..1FAF8"]⟩,
  ⟨["ecomp", "emojicomponent"],
    ["23 2A 30..39 200D 20E3 FE0F 1F1E6..1F1FF 1F3FB..1F3FF 1F9B0..1F9B3 E0020..E007F"]⟩,
  ⟨["emod", "emojimodifier"],
    ["1F3FB..1F3FF"]⟩,
  ⟨["ebase", "emojimodifierbase"],
    ["261D 26F9 270A..270D 1F385 1F3C2..1F3C4 1F3C7 1F3CA..1F3CC 1F442..1F443 1F446..1F450",
     "1F466..1F478 1F47C 1F481..1F483 1F485..1F487 1F48F 1F491 1F4AA 1F574..1F575 1F57A 1F590",
     "1F595..1F596 1F645..1F647 1F64B..1F64F 1F6A3 1F6B4..1F6B6 1F6C0 1F6CC 1F90C 1F90F",
     "1F918..1F91F 1F926 1F930..1F939 1F93C..1F93E 1F977 1F9B5..1F9B6 1F9B8..1F9B9 1F9BB",
     "1F9CD..1F9CF 1F9D1..1F9DD 1FAC3..1FAC5 1FAF0..1FAF8"]⟩,
  ⟨["epres", "emojipresentation"],
    ["231A..231B 23E9..23EC 23F0 23F3 25FD..25FE 2614..2615 2648..2653 267F 2693 26A1",
     "26AA..26AB 26BD..26BE 26C4..26C5 26CE 26D4 26EA 26F2..26F3 26F5 26FA 26FD 2705 270A..270B",
     "2728 274C 274E 2753..2755 2757 2795..2797 27B0 27BF 2B1B..2B1C 2B50 2B55 1F004 1F0CF",
     "1F18E 1F191..1F19A 1F1E6..1F1FF 1F201 1F21A 1F22F 1F232..1F236 1F238..1F23A 1F250..1F251",
     "1F300..1F320 1F32D..1F335 1F337..1F37C 1F37E..1F393 1F3A0..1F3CA 1F3CF..1F3D3",
     "1F3E0..1F3F0 1F3F4 1F3F8..1F43E 1F440 1F442..1F4FC 1F4FF..1F53D 1F54B..1F54E 1F550..1F567",
     "1F57A 1F595..1F596 1F5A4 1F5FB..1F64F 1F680..1F6C5 1F6CC 1F6D0..1F6D2 1F6D5..1F6D7",
     "1F6DC..1F6DF 1F6EB..1F6EC 1F6F4..1F6FC 1F7E0..1F7EB 1F7F0 1F90C..1F93A 1F93C..1F945",
     "1F947..1F9FF 1FA70..1FA7C 1FA80..1FA89 1FA8F..1FAC6 1FACE..1FADC 1FADF..1FAE9",
     "1FAF0..1FAF8"]⟩,
  ⟨["extpict", "extendedpictographic"],
    ["A9 AE 203C 2049 2122 2139 2194..2199 21A9..21AA 231A..231B 2328 2388 23CF 23E9..23F3",
     "23F8..23FA 24C2 25AA..25AB 25B6 25C0 25FB..25FE 2600..2605 2607..2612 2614..2685",
     "2690..2705 2708..2712 2714 2716 271D 2721 2728 2733..2734 2744 2747 274C 274E 2753..2755",
     "2757 2763..2767 2795..2797 27A1 27B0 27BF 2934..2935 2B05..2B07 2B1B..2B1C 2B50 2B55 3030",
     "303D 3297 3299 1F000..1F0FF 1F10D..1F10F 1F12F 1F16C..1F171 1F17E..1F17F 1F18E",
     "1F191..1F19A 1F1AD..1F1E5 1F201..1F20F 1F21A 1F22F 1F232..1F23A 1F23C..1F23F 1F249..1F3FA",
     "1F400..1F53D 1F546..1F64F 1F680..1F6FF 1F774..1F77F 1F7D5..1F7FF 1F80C..1F80F",
     "1F848..1F84F 1F85A..1F85F 1F888..1F88F 1F8AE..1F8FF 1F90C..1F93A 1F93C..1F945",
     "1F947..1FAFF 1FC00..1FFFD"]⟩,
  ⟨["ext", "extender"],
    ["B7 2D0..2D1 640 7FA A71 AFB B55 E46 EC6 180A 1843 1AA7 1C36 1C7B 3005 3031..3035",
     "309D..309E 30FC..30FE A015 A60C A9CF A9E6 AA70 AADD AAF3..AAF4 FF70 10781..10782 10D4E",
     "10D6A 10D6F 11237 1135D 113D2..113D3 115C6..115C8 11A98 16B42..16B43 16FE0..16FE1 16FE3",
     "1E13C..1E13D 1E5EF 1E944..1E946"]⟩,
  ⟨["grlink", "graphemelink"],
    ["94D 9CD A4D ACD B4D BCD C4D CCD D3B..D3C D4D DCA E3A EBA F84 1039..103A 1714..1715 1734",
     "17D2 1A60 1B44 1BAA..1BAB 1BF2..1BF3 2D7F A806 A82C A8C4 A953 A9C0 AAF6 ABED 10A3F 11046",
     "11070 1107F 110B9 11133..11134 111C0 11235 112EA 1134D 113CE..113D0 11442 114C2 115BF",
     "1163F 116B6 1172B 11839 1193D..1193E 119E0 11A34 11A47 11A99 11C3F 11D44..11D45 11D97",
     "11F41..11F42 1612F"]⟩,
  ⟨["hex", "hexdigit"],
    ["30..39 41..46 61..66 FF10..FF19 FF21..FF26 FF41..FF46"]⟩,
  ⟨["hyphen"],
    ["2D AD 58A 1806 2010..2011 2E17 30FB FE63 FF0D FF65"]⟩,
  ⟨["idcompatmathcontinue"],
    ["B2..B3 B9 2070 2074..207E 2080..208E 2202 2207 221E 1D6C1 1D6DB 1D6FB 1D715 1D735 1D74F",
     "1D76F 1D789 1D7A9 1D7C3"]⟩,
  ⟨["idcompatmathstart"],
    ["2202 2207 221E 1D6C1 1D6DB 1D6FB 1D715 1D735 1D74F 1D76F 1D789 1D7A9 1D7C3"]⟩,
  ⟨["ideo", "ideographic"],
    ["3006..3007 3021..3029 3038..303A 3400..4DBF 4E00..9FFF F900..FA6D FA70..FAD9 16FE4",
     "17000..187F7 18800..18CD5 18CFF..18D08 1B170..1B2FB 20000..2A6DF 2A700..2B739",
     "2B740..2B81D 2B820..2CEA1 2CEB0..2EBE0 2EBF0..2EE5D 2F800..2FA1D 30000..3134A",
     "31350..323AF"]⟩,
  ⟨["idsb", "idsbinaryoperator"],
    ["2FF0..2FF1 2FF4..2FFD 31EF"]⟩,
  ⟨["idst", "idstrinaryoperator"],
    ["2FF2..2FF3"]⟩,
  ⟨["idsu", "idsunaryoperator"],
    ["2FFE..2FFF"]⟩,
  ⟨["joinc", "joincontrol"],
    ["200C..200D"]⟩,
  ⟨["loe", "logicalorderexception"],
    ["E40..E44 EC0..EC4 19B5..19B7 19BA AAB5..AAB6 AAB9 AABB..AABC"]⟩,
  ⟨["mcm", "modifiercombiningmark"],
    ["654..655 658 6DC 6E3 6E7..6E8 8CA..8CB 8CD..8CF 8D3 8F3"]⟩,
  ⟨["nchar", "noncharactercodepoint"],
    ["FDD0..FDEF FFFE..FFFF 1FFFE..1FFFF 2FFFE..2FFFF 3FFFE..3FFFF 4FFFE..4FFFF 5FFFE..5FFFF",
     "6FFFE..6FFFF 7FFFE..7FFFF 8FFFE..8FFFF 9FFFE..9FFFF AFFFE..AFFFF BFFFE..BFFFF",
     "CFFFE..CFFFF DFFFE..DFFFF EFFFE..EFFFF FFFFE..FFFFF 10FFFE..10FFFF"]⟩,
  ⟨["otheralphabetic", "oalpha"],
    ["345 363..36F 5B0..5BD 5BF 5C1..5C2 5C4..5C5 5C7 610..61A 64B..657 659..65F 670 6D6..6DC",
     "6E1..6E4 6E7..6E8 6ED 711 730..73F 7A6..7B0 816..817 81B..823 825..827 829..82C 897",
     "8D4..8DF 8E3..8E9 8F0..903 93A..93B 93E..94C 94E..94F 955..957 962..963 981..983 9BE..9C4",
     "9C7..9C8 9CB..9CC 9D7 9E2..9E3 A01..A03 A3E..A42 A47..A48 A4B..A4C A51 A70..A71 A75",
     "A81..A83 ABE..AC5 AC7..AC9 ACB..ACC AE2..AE3 AFA..AFC B01..B03 B3E..B44 B47..B48 B4B..B4C",
     "B56..B57 B62..B63 B82 BBE..BC2 BC6..BC8 BCA..BCC BD7 C00..C04 C3E..C44 C46..C48 C4A..C4C",
     "C55..C56 C62..C63 C81..C83 CBE..CC4 CC6..CC8 CCA..CCC CD5..CD6 CE2..CE3 CF3 D00..D03",
     "D3E..D44 D46..D48 D4A..D4C D57 D62..D63 D81..D83 DCF..DD4 DD6 DD8..DDF DF2..DF3 E31",
     "E34..E3A E4D EB1 EB4..EB9 EBB..EBC ECD F71..F83 F8D..F97 F99..FBC 102B..1036 1038",
     "103B..103E 1056..1059 105E..1060 1062..1064 1067..106D 1071..1074 1082..108D 108F",
     "109A..109D 1712..1713 1732..1733 1752..1753 1772..1773 17B6..17C8 1885..1886 18A9",
     "1920..192B 1930..1938 1A17..1A1B 1A55..1A5E 1A61..1A74 1ABF..1AC0 1ACC..1ACE 1B00..1B04",
     "1B35..1B43 1B80..1B82 1BA1..1BA9 1BAC..1BAD 1BE7..1BF1 1C24..1C36 1DD3..1DF4 24B6..24E9",
     "2DE0..2DFF A674..A67B A69E..A69F A802 A80B A823..A827 A880..A881 A8B4..A8C3 A8C5 A8FF",
     "A926..A92A A947..A952 A980..A983 A9B4..A9BF A9E5 AA29..AA36 AA43 AA4C..AA4D AA7B..AA7D",
     "AAB0 AAB2..AAB4 AAB7..AAB8 AABE AAEB..AAEF AAF5 ABE3..ABEA FB1E 10376..1037A 10A01..10A03",
     "10A05..10A06 10A0C..10A0F 10D24..10D27 10D69 10EAB..10EAC 10EFC 11000..11002 11038..11045",
     "11073..11074 11080..11082 110B0..110B8 110C2 11100..11102 11127..11132 11145..11146",
     "11180..11182 111B3..111BF 111CE..111CF 1122C..11234 11237 1123E 11241 112DF..112E8",
     "11300..11303 1133E..11344 11347..11348 1134B..1134C 11357 11362..11363 113B8..113C0 113C2",
     "113C5 113C7..113CA 113CC..113CD 11435..11441 11443..11445 114B0..114C1 115AF..115B5",
     "115B8..115BE 115DC..115DD 11630..1163E 11640 116AB..116B5 1171D..1172A 1182C..11838",
     "11930..11935 11937..11938 1193B..1193C 11940 11942 119D1..119D7 119DA..119DF 119E4",
     "11A01..11A0A 11A35..11A39 11A3B..11A3E 11A51..11A5B 11A8A..11A97 11C2F..11C36",
     "11C38..11C3E 11C92..11CA7 11CA9..11CB6 11D31..11D36 11D3A 11D3C..11D3D 11D3F..11D41 11D43",
     "11D47 11D8A..11D8E 11D90..11D91 11D93..11D96 11EF3..11EF6 11F00..11F01 11F03 11F34..11F3A",
     "11F3E..11F40 1611E..1612E 16F4F 16F51..16F87 16F8F..16F92 16FF0..16FF1 1BC9E 1E000..1E006",
     "1E008..1E018 1E01B..1E021 1E023..1E024 1E026..1E02A 1E08F 1E947 1F130..1F149 1F150..1F169",
     "1F170..1F189"]⟩,
  ⟨["otherdefaultignorablecodepoint", "odi"],
    ["34F 115F..1160 17B4..17B5 2065 3164 FFA0 FFF0..FFF8 E0000 E0002..E001F E0080..E00FF",
     "E01F0..E0FFF"]⟩,
  ⟨["othergraphemeextend", "ogrext"],
    ["9BE 9D7 B3E B57 BBE BD7 CC0 CC2 CC7..CC8 CCA..CCB CD5..CD6 D3E D57 DCF DDF 1715 1734 1B35",
     "1B3B 1B3D 1B43..1B44 1BAA 1BF2..1BF3 200C 302E..302F A953 A9C0 FF9E..FF9F 111C0 11235",
     "1133E 1134D 11357 113B8 113C2 113C5 113C7..113C9 113CF 114B0 114BD 115AF 116B6 11930",
     "1193D 11F41 16FF0..16FF1 1D165..1D166 1D16D..1D172 E0020..E007F"]⟩,
  ⟨["otheridcontinue", "oidc"],
    ["B7 387 1369..1371 19DA 200C..200D 30FB FF65"]⟩,
  ⟨["otheridstart", "oids"],
    ["1885..1886 2118 212E 309B..309C"]⟩,
  ⟨["otherlowercase", "olower"],
    ["AA BA 2B0..2B8 2C0..2C1 2E0..2E4 345 37A 10FC 1D2C..1D6A 1D78 1D9B..1DBF 2071 207F",
     "2090..209C 2170..217F 24D0..24E9 2C7C..2C7D A69C..A69D A770 A7F2..A7F4 A7F8..A7F9",
     "AB5C..AB5F AB69 10780 10783..10785 10787..107B0 107B2..107BA 1E030..1E06D"]⟩,
  ⟨["othermath", "omath"],
    ["5E 3D0..3D2 3D5 3F0..3F1 3F4..3F5 2016 2032..2034 2040 2061..2064 207D..207E 208D..208E",
     "20D0..20DC 20E1 20E5..20E6 20EB..20EF 2102 2107 210A..2113 2115 2119..211D 2124",
     "2128..2129 212C..212D 212F..2131 2133..2138 213C..213F 2145..2149 2195..2199 219C..219F",
     "21A1..21A2 21A4..21A5 21A7 21A9..21AD 21B0..21B1 21B6..21B7 21BC..21CD 21D0..21D1 21D3",
     "21D5..21DB 21DD 21E4..21E5 2308..230B 23B4..23B5 23B7 23D0 23E2 25A0..25A1 25AE..25B6",
     "25BC..25C0 25C6..25C7 25CA..25CB 25CF..25D3 25E2 25E4 25E7..25EC 2605..2606 2640 2642",
     "2660..2663 266D..266E 27C5..27C6 27E6..27EF 2983..2998 29D8..29DB 29FC..29FD FE61 FE63",
     "FE68 FF3C FF3E 1D400..1D454 1D456..1D49C 1D49E..1D49F 1D4A2 1D4A5..1D4A6 1D4A9..1D4AC",
     "1D4AE..1D4B9 1D4BB 1D4BD..1D4C3 1D4C5..1D505 1D507..1D50A 1D50D..1D514 1D516..1D51C",
     "1D51E..1D539 1D53B..1D53E 1D540..1D544 1D546 1D54A..1D550 1D552..1D6A5 1D6A8..1D6C0",
     "1D6C2..1D6DA 1D6DC..1D6FA 1D6FC..1D714 1D716..1D734 1D736..1D74E 1D750..1D76E",
     "1D770..1D788 1D78A..1D7A8 1D7AA..1D7C2 1D7C4..1D7CB 1D7CE..1D7FF 1EE00..1EE03",
     "1EE05..1EE1F 1EE21..1EE22 1EE24 1EE27 1EE29..1EE32 1EE34..1EE37 1EE39 1EE3B 1EE42 1EE47",
     "1EE49 1EE4B 1EE4D..1EE4F 1EE51..1EE52 1EE54 1EE57 1EE59 1EE5B 1EE5D 1EE5F 1EE61..1EE62",
     "1EE64 1EE67..1EE6A 1EE6C..1EE72 1EE74..1EE77 1EE79..1EE7C 1EE7E 1EE80..1EE89 1EE8B..1EE9B",
     "1EEA1..1EEA3 1EEA5..1EEA9 1EEAB..1EEBB"]⟩,
  ⟨["otheruppercase", "oupper"],
    ["2160..216F 24B6..24CF 1F130..1F149 1F150..1F169 1F170..1F189"]⟩,
  ⟨["patsyn", "patternsyntax"],
    ["21..2F 3A..40 5B..5E 60 7B..7E A1..A7 A9 AB..AC AE B0..B1 B6 BB BF D7 F7 2010..2027",
     "2030..203E 2041..2053 2055..205E 2190..245F 2500..2775 2794..2BFF 2E00..2E7F 3001..3003",
     "3008..3020 3030 FD3E..FD3F FE45..FE46"]⟩,
  ⟨["patws", "patternwhitespace"],
    ["9..D 20 85 200E..200F 2028..2029"]⟩,
  ⟨["pcm", "prependedconcatenationmark"],
    ["600..605 6DD 70F 890..891 8E2 110BD 110CD"]⟩,
  ⟨["qmark", "quotationmark"],
    ["22 27 AB BB 2018..201F 2039..203A 2E42 300C..300F 301D..301F FE41..FE44 FF02 FF07",
     "FF62..FF63"]⟩,
  ⟨["radical"],
    ["2E80..2E99 2E9B..2EF3 2F00..2FD5"]⟩,
  ⟨["ri", "regionalindicator"],
    ["1F1E6..1F1FF"]⟩,
  ⟨["sterm", "sentenceterminal"],
    ["21 2E 3F 589 61D..61F 6D4 700..702 7F9 837 839 83D..83E 964..965 104A..104B 1362",
     "1367..1368 166E 1735..1736 17D4..17D5 1803 1809 1944..1945 1AA8..1AAB 1B4E..1B4F",
     "1B5A..1B5B 1B5E..1B5F 1B7D..1B7F 1C3B..1C3C 1C7E..1C7F 2024 203C..203D 2047..2049",
     "2CF9..2CFB 2E2E 2E3C 2E53..2E54 3002 A4FF A60E..A60F A6F3 A6F7 A876..A877 A8CE..A8CF A92F",
     "A9C8..A9C9 AA5D..AA5F AAF0..AAF1 ABEB FE12 FE15..FE16 FE52 FE56..FE57 FF01 FF0E FF1F FF61",
     "10A56..10A57 10F55..10F59 10F86..10F89 11047..11048 110BE..110C1 11141..11143",
     "111C5..111C6 111CD 111DE..111DF 11238..11239 1123B..1123C 112A9 113D4..113D5 1144B..1144C",
     "115C2..115C3 115C9..115D7 11641..11642 1173C..1173E 11944 11946 11A42..11A43 11A9B..11A9C",
     "11C41..11C42 11EF7..11EF8 11F43..11F44 16A6E..16A6F 16AF5 16B37..16B38 16B44 16D6E..16D6F",
     "16E98 1BC9F 1DA88"]⟩,
  ⟨["sd", "softdotted"],
    ["69..6A 12F 249 268 29D 2B2 3F3 456 458 1D62 1D96 1DA4 1DA8 1E2D 1ECB 2071 2148..2149 2C7C",
     "1D422..1D423 1D456..1D457 1D48A..1D48B 1D4BE..1D4BF 1D4F2..1D4F3 1D526..1D527",
     "1D55A..1D55B 1D58E..1D58F 1D5C2..1D5C3 1D5F6..1D5F7 1D62A..1D62B 1D65E..1D65F",
     "1D692..1D693 1DF1A 1E04C..1E04D 1E068"]⟩,
  ⟨["term", "terminalpunctuation"],
    ["21 2C 2E 3A..3B 3F 37E 387 589 5C3 60C 61B 61D..61F 6D4 700..70A 70C 7F8..7F9 830..835",
     "837..83E 85E 964..965 E5A..E5B F08 F0D..F12 104A..104B 1361..1368 166E 16EB..16ED",
     "1735..1736 17D4..17D6 17DA 1802..1805 1808..1809 1944..1945 1AA8..1AAB 1B4E..1B4F",
     "1B5A..1B5B 1B5D..1B5F 1B7D..1B7F 1C3B..1C3F 1C7E..1C7F 2024 203C..203D 2047..2049",
     "2CF9..2CFB 2E2E 2E3C 2E41 2E4C 2E4E..2E4F 2E53..2E54 3001..3002 A4FE..A4FF A60D..A60F",
     "A6F3..A6F7 A876..A877 A8CE..A8CF A92F A9C7..A9C9 AA5D..AA5F AADF AAF0..AAF1 ABEB FE12",
     "FE15..FE16 FE50..FE52 FE54..FE57 FF01 FF0C FF0E FF1A..FF1B FF1F FF61 FF64 1039F 103D0",
     "10857 1091F 10A56..10A57 10AF0..10AF5 10B3A..10B3F 10B99..10B9C 10F55..10F59 10F86..10F89",
     "11047..1104D 110BE..110C1 11141..11143 111C5..111C6 111CD 111DE..111DF 11238..1123C 112A9",
     "113D4..113D5 1144B..1144D 1145A..1145B 115C2..115C5 115C9..115D7 11641..11642",
     "1173C..1173E 11944 11946 11A42..11A43 11A9B..11A9C 11AA1..11AA2 11C41..11C43 11C71",
     "11EF7..11EF8 11F43..11F44 12470..12474 16A6E..16A6F 16AF5 16B37..16B39 16B44 16D6E..16D6F",
     "16E97..16E98 1BC9F 1DA87..1DA8A"]⟩,
  ⟨["uideo", "unifiedideograph"],
    ["3400..4DBF 4E00..9FFF FA0E..FA0F FA11 FA13..FA14 FA1F FA21 FA23..FA24 FA27..FA29",
     "20000..2A6DF 2A700..2B739 2B740..2B81D 2B820..2CEA1 2CEB0..2EBE0 2EBF0..2EE5D",
     "30000..3134A 31350..323AF"]⟩,
  ⟨["vs", "variationselector"],
    ["180B..180D 180F FE00..FE0F E0100..E01EF"]⟩,
  ⟨["wspace", "whitespace", "space"],
    ["9..D 20 85 A0 1680 2000..200A 2028..2029 202F 205F 3000"]⟩]

/-- The properties that are put together from categories and from basic ones. -/
def derived : List DerivedSet := [
  ⟨["alpha", "alphabetic"],
    ["lu", "ll", "lt", "lm", "lo", "nl", "otheralphabetic"],
    [],
    [],
    []⟩,
  ⟨["lower", "lowercase"],
    ["ll", "otherlowercase"],
    [],
    [],
    []⟩,
  ⟨["upper", "uppercase"],
    ["lu", "otheruppercase"],
    [],
    [],
    []⟩,
  ⟨["cased"],
    ["lu", "ll", "lt", "otherlowercase", "otheruppercase"],
    [],
    [],
    []⟩,
  ⟨["ci", "caseignorable"],
    ["mn", "me", "cf", "lm", "sk"],
    ["27 2E 3A B7 387 55F 5F4 2018..2019 2024 2027 FE13 FE52 FE55 FF07 FF0E FF1A"],
    [],
    []⟩,
  ⟨["cwcm", "changeswhencasemapped"],
    ["cwl", "cwu", "cwt"],
    [],
    [],
    []⟩,
  ⟨["di", "defaultignorablecodepoint"],
    ["cf", "vs", "odi"],
    [],
    ["pcm"],
    ["FFF9..FFFB 13430..1343F"]⟩,
  ⟨["grbase", "graphemebase"],
    ["lu", "ll", "lt", "lm", "lo", "mc", "nd", "nl", "no", "pc", "pd", "ps", "pe", "pi", "pf", "po", "sm", "sc", "sk", "so", "zs"],
    [],
    ["othergraphemeextend"],
    []⟩,
  ⟨["grext", "graphemeextend"],
    ["mn", "me", "othergraphemeextend"],
    [],
    [],
    []⟩,
  ⟨["ids", "idstart"],
    ["lu", "ll", "lt", "lm", "lo", "nl", "otheridstart"],
    [],
    ["patternsyntax", "patternwhitespace"],
    []⟩,
  ⟨["idc", "idcontinue"],
    ["lu", "ll", "lt", "lm", "lo", "nl", "otheridstart", "mn", "mc", "nd", "pc", "otheridcontinue"],
    [],
    ["patternsyntax", "patternwhitespace"],
    []⟩,
  ⟨["xids", "xidstart"],
    ["lu", "ll", "lt", "lm", "lo", "nl", "otheridstart"],
    [],
    ["patternsyntax", "patternwhitespace"],
    ["37A E33 EB3 309B..309C FC5E..FC63 FDFA..FDFB FE70 FE72 FE74 FE76 FE78 FE7A FE7C FE7E",
     "FF9E..FF9F"]⟩,
  ⟨["xidc", "xidcontinue"],
    ["lu", "ll", "lt", "lm", "lo", "nl", "otheridstart", "mn", "mc", "nd", "pc", "otheridcontinue"],
    [],
    ["patternsyntax", "patternwhitespace"],
    ["37A 309B..309C FC5E..FC63 FDFA..FDFB FE70 FE72 FE74 FE76 FE78 FE7A FE7C FE7E"]⟩,
  ⟨["math"],
    ["sm", "othermath"],
    [],
    [],
    []⟩]

/-- The characters that are new in each version, from the first version on. -/
def ages : List NamedSet := [
  ⟨["1.1", "v11"],
    ["0..1F5 1FA..217 250..2A8 2B0..2DE 2E0..2E9 300..345 360..361 374..375 37A 37E 384..38A",
     "38C 38E..3A1 3A3..3CE 3D0..3D6 3DA 3DC 3DE 3E0 3E2..3F3 401..40C 40E..44F 451..45C",
     "45E..486 490..4C4 4C7..4C8 4CB..4CC 4D0..4EB 4EE..4F5 4F8..4F9 531..556 559..55F 561..587",
     "589 5B0..5B9 5BB..5C3 5D0..5EA 5F0..5F4 60C 61B 61F 621..63A 640..652 660..66D 670..6B7",
     "6BA..6BE 6C0..6CE 6D0..6ED 6F0..6F9 901..903 905..939 93C..94D 950..954 958..970 981..983",
     "985..98C 98F..990 993..9A8 9AA..9B0 9B2 9B6..9B9 9BC 9BE..9C4 9C7..9C8 9CB..9CD 9D7",
     "9DC..9DD 9DF..9E3 9E6..9FA A02 A05..A0A A0F..A10 A13..A28 A2A..A30 A32..A33 A35..A36",
     "A38..A39 A3C A3E..A42 A47..A48 A4B..A4D A59..A5C A5E A66..A74 A81..A83 A85..A8B A8D",
     "A8F..A91 A93..AA8 AAA..AB0 AB2..AB3 AB5..AB9 ABC..AC5 AC7..AC9 ACB..ACD AD0 AE0 AE6..AEF",
     "B01..B03 B05..B0C B0F..B10 B13..B28 B2A..B30 B32..B33 B36..B39 B3C..B43 B47..B48 B4B..B4D",
     "B56..B57 B5C..B5D B5F..B61 B66..B70 B82..B83 B85..B8A B8E..B90 B92..B95 B99..B9A B9C",
     "B9E..B9F BA3..BA4 BA8..BAA BAE..BB5 BB7..BB9 BBE..BC2 BC6..BC8 BCA..BCD BD7 BE7..BF2",
     "C01..C03 C05..C0C C0E..C10 C12..C28 C2A..C33 C35..C39 C3E..C44 C46..C48 C4A..C4D C55..C56",
     "C60..C61 C66..C6F C82..C83 C85..C8C C8E..C90 C92..CA8 CAA..CB3 CB5..CB9 CBE..CC4 CC6..CC8",
     "CCA..CCD CD5..CD6 CDE CE0..CE1 CE6..CEF D02..D03 D05..D0C D0E..D10 D12..D28 D2A..D39",
     "D3E..D43 D46..D48 D4A..D4D D57 D60..D61 D66..D6F E01..E3A E3F..E5B E81..E82 E84 E87..E88",
     "E8A E8D E94..E97 E99..E9F EA1..EA3 EA5 EA7 EAA..EAB EAD..EB9 EBB..EBD EC0..EC4 EC6",
     "EC8..ECD ED0..ED9 EDC..EDD 10A0..10C5 10D0..10F6 10FB 1100..1159 115F..11A2 11A8..11F9",
     "1E00..1E9A 1EA0..1EF9 1F00..1F15 1F18..1F1D 1F20..1F45 1F48..1F4D 1F50..1F57 1F59 1F5B",
     "1F5D 1F5F..1F7D 1F80..1FB4 1FB6..1FC4 1FC6..1FD3 1FD6..1FDB 1FDD..1FEF 1FF2..1FF4",
     "1FF6..1FFE 2000..202E 2030..2046 206A..2070 2074..208E 20A0..20AA 20D0..20E1 2100..2138",
     "2153..2182 2190..21EA 2200..22F1 2300 2302..237A 2400..2424 2440..244A 2460..24EA",
     "2500..2595 25A0..25EF 2600..2613 261A..266F 2701..2704 2706..2709 270C..2727 2729..274B",
     "274D 274F..2752 2756 2758..275E 2761..2767 2776..2794 2798..27AF 27B1..27BE 3000..3037",
     "303F 3041..3094 3099..309E 30A1..30FE 3105..312C 3131..318E 3190..319F 3200..321C",
     "3220..3243 3260..327B 327F..32B0 32C0..32CB 32D0..32FE 3300..3376 337B..33DD 33E0..33FE",
     "4E00..9FA5 E000..FA2D FB00..FB06 FB13..FB17 FB1E..FB36 FB38..FB3C FB3E FB40..FB41",
     "FB43..FB44 FB46..FBB1 FBD3..FD3F FD50..FD8F FD92..FDC7 FDF0..FDFB FE20..FE23 FE30..FE44",
     "FE49..FE52 FE54..FE66 FE68..FE6B FE70..FE72 FE74 FE76..FEFC FEFF FF01..FF5E FF61..FFBE",
     "FFC2..FFC7 FFCA..FFCF FFD2..FFD7 FFDA..FFDC FFE0..FFE6 FFE8..FFEE FFFD..FFFF"]⟩,
  ⟨["2.0", "v20"],
    ["591..5A1 5A3..5AF 5C4 F00..F47 F49..F69 F71..F8B F90..F95 F97 F99..FAD FB1..FB7 FB9 1E9B",
     "20AB AC00..D7A3 1FFFE..1FFFF 2FFFE..2FFFF 3FFFE..3FFFF 4FFFE..4FFFF 5FFFE..5FFFF",
     "6FFFE..6FFFF 7FFFE..7FFFF 8FFFE..8FFFF 9FFFE..9FFFF AFFFE..AFFFF BFFFE..BFFFF",
     "CFFFE..CFFFF DFFFE..DFFFF EFFFE..10FFFF"]⟩,
  ⟨["2.1", "v21"],
    ["20AC FFFC"]⟩,
  ⟨["3.0", "v30"],
    ["1F6..1F9 218..21F 222..233 2A9..2AD 2DF 2EA..2EE 346..34E 362 3D7 3DB 3DD 3DF 3E1 400 40D",
     "450 45D 488..489 48C..48F 4EC..4ED 58A 653..655 6B8..6B9 6BF 6CF 6FA..6FE 700..70D",
     "70F..72C 730..74A 780..7B0 D82..D83 D85..D96 D9A..DB1 DB3..DBB DBD DC0..DC6 DCA DCF..DD4",
     "DD6 DD8..DDF DF2..DF4 F6A F96 FAE..FB0 FB8 FBA..FBC FBE..FCC FCF 1000..1021 1023..1027",
     "1029..102A 102C..1032 1036..1039 1040..1059 1200..1206 1208..1246 1248 124A..124D",
     "1250..1256 1258 125A..125D 1260..1286 1288 128A..128D 1290..12AE 12B0 12B2..12B5",
     "12B8..12BE 12C0 12C2..12C5 12C8..12CE 12D0..12D6 12D8..12EE 12F0..130E 1310 1312..1315",
     "1318..131E 1320..1346 1348..135A 1361..137C 13A0..13F4 1401..1676 1680..169C 16A0..16F0",
     "1780..17DC 17E0..17E9 1800..180E 1810..1819 1820..1877 1880..18A9 202F 2048..204D",
     "20AD..20AF 20E2..20E3 2139..213A 2183 21EB..21F3 2301 237B 237D..239A 2425..2426",
     "25F0..25F7 2619 2670..2671 2800..28FF 2E80..2E99 2E9B..2EF3 2F00..2FD5 2FF0..2FFB",
     "3038..303A 303E 31A0..31B7 3400..4DB5 A000..A48C A490..A4A1 A4A4..A4B3 A4B5..A4C0",
     "A4C2..A4C4 A4C6 FB1D FFF9..FFFB"]⟩,
  ⟨["3.1", "v31"],
    ["3F4..3F5 FDD0..FDEF 10300..1031E 10320..10323 10330..1034A 10400..10425 10428..1044D",
     "1D000..1D0F5 1D100..1D126 1D12A..1D1DD 1D400..1D454 1D456..1D49C 1D49E..1D49F 1D4A2",
     "1D4A5..1D4A6 1D4A9..1D4AC 1D4AE..1D4B9 1D4BB 1D4BD..1D4C0 1D4C2..1D4C3 1D4C5..1D505",
     "1D507..1D50A 1D50D..1D514 1D516..1D51C 1D51E..1D539 1D53B..1D53E 1D540..1D544 1D546",
     "1D54A..1D550 1D552..1D6A3 1D6A8..1D7C9 1D7CE..1D7FF 20000..2A6D6 2F800..2FA1D E0001",
     "E0020..E007F"]⟩,
  ⟨["3.2", "v32"],
    ["220 34F 363..36F 3D8..3D9 3F6 48A..48B 4C5..4C6 4C9..4CA 4CD..4CE 500..50F 66E..66F 7B1",
     "10F7..10F8 1700..170C 170E..1714 1720..1736 1740..1753 1760..176C 176E..1770 1772..1773",
     "2047 204E..2052 2057 205F..2063 2071 20B0..20B1 20E4..20EA 213D..214B 21F4..21FF",
     "22F2..22FF 237C 239B..23CE 24EB..24FE 2596..259F 25F8..25FF 2616..2617 2672..267D",
     "2680..2689 2768..2775 27D0..27EB 27F0..27FF 2900..2AFF 303B..303D 3095..3096 309F..30A0",
     "30FF 31F0..31FF 3251..325F 32B1..32BF A4A2..A4A3 A4B4 A4C1 A4C5 FA30..FA6A FDFC",
     "FE00..FE0F FE45..FE46 FE73 FF5F..FF60"]⟩,
  ⟨["4.0", "v40"],
    ["221 234..236 2AE..2AF 2EF..2FF 350..357 35D..35F 3F7..3FB 600..603 60D..615 656..658",
     "6EE..6EF 6FF 72D..72F 74D..74F 904 9BD A01 A03 A8C AE1..AE3 AF1 B35 B71 BF3..BFA CBC..CBD",
     "17DD 17F0..17F9 1900..191C 1920..192B 1930..193B 1940 1944..196D 1970..1974 19E0..19FF",
     "1D00..1D6B 2053..2054 213B 23CF..23D0 24FF 2614..2615 268A..2691 26A0..26A1 2B00..2B0D",
     "321D..321E 3250 327C..327D 32CC..32CF 3377..337A 33DE..33DF 33FF 4DC0..4DFF FDFD",
     "FE47..FE48 10000..1000B 1000D..10026 10028..1003A 1003C..1003D 1003F..1004D 10050..1005D",
     "10080..100FA 10100..10102 10107..10133 10137..1013F 10380..1039D 1039F 10426..10427",
     "1044E..1049D 104A0..104A9 10800..10805 10808 1080A..10835 10837..10838 1083C 1083F",
     "1D300..1D356 1D4C1 E0100..E01EF"]⟩,
  ⟨["4.1", "v41"],
    ["237..241 358..35C 3FC..3FF 4F6..4F7 5A2 5C5..5C7 60B 61E 659..65E 750..76D 97D 9CE BB6",
     "BE6 FD0..FD1 10F9..10FA 10FC 1207 1247 1287 12AF 12CF 12EF 130F 131F 1347 135F..1360",
     "1380..1399 1980..19A9 19B0..19C9 19D0..19D9 19DE..19DF 1A00..1A1B 1A1E..1A1F 1D6C..1DC3",
     "2055..2056 2058..205E 2090..2094 20B2..20B5 20EB 213C 214C 23D1..23DB 2618 267E..267F",
     "2692..269C 26A2..26B1 27C0..27C6 2B0E..2B13 2C00..2C2E 2C30..2C5E 2C80..2CEA 2CF9..2D25",
     "2D30..2D65 2D6F 2D80..2D96 2DA0..2DA6 2DA8..2DAE 2DB0..2DB6 2DB8..2DBE 2DC0..2DC6",
     "2DC8..2DCE 2DD0..2DD6 2DD8..2DDE 2E00..2E17 2E1C..2E1D 31C0..31CF 327E 9FA6..9FBB",
     "A700..A716 A800..A82B FA70..FAD9 FE10..FE19 10140..1018A 103A0..103C3 103C8..103D5",
     "10A00..10A03 10A05..10A06 10A0C..10A13 10A15..10A17 10A19..10A33 10A38..10A3A",
     "10A3F..10A47 10A50..10A58 1D200..1D245 1D6A4..1D6A5"]⟩,
  ⟨["5.0", "v50"],
    ["242..24F 37B..37D 4CF 4FA..4FF 510..513 5BA 7C0..7FA 97B..97C 97E..97F CE2..CE3 CF1..CF2",
     "1B00..1B4B 1B50..1B7C 1DC4..1DCA 1DFE..1DFF 20EC..20EF 214D..214E 2184 23DC..23E7 26B2",
     "27C7..27CA 2B14..2B1A 2B20..2B23 2C60..2C6C 2C74..2C77 A717..A71A A720..A721 A840..A877",
     "10900..10919 1091F 12000..1236E 12400..12462 12470..12473 1D360..1D371 1D7CA..1D7CB"]⟩,
  ⟨["5.1", "v51"],
    ["370..373 376..377 3CF 487 514..523 606..60A 616..61A 63B..63F 76E..77F 971..972 A51 A75",
     "B44 B62..B63 BD0 C3D C58..C59 C62..C63 C78..C7F D3D D44 D62..D63 D70..D75 D79..D7F",
     "F6B..F6C FCE FD2..FD4 1022 1028 102B 1033..1035 103A..103F 105A..1099 109E..109F 18AA",
     "1B80..1BAA 1BAE..1BB9 1C00..1C37 1C3B..1C49 1C4D..1C7F 1DCB..1DE6 1E9C..1E9F 1EFA..1EFF",
     "2064 20F0 214F 2185..2188 269D 26B3..26BC 26C0..26C3 27CC 27EC..27EF 2B1B..2B1F",
     "2B24..2B4C 2B50..2B54 2C6D..2C6F 2C71..2C73 2C78..2C7D 2DE0..2DFF 2E18..2E1B 2E1E..2E30",
     "312D 31D0..31E3 9FBC..9FC3 A500..A62B A640..A65F A662..A673 A67C..A697 A71B..A71F",
     "A722..A78C A7FB..A7FF A880..A8C4 A8CE..A8D9 A900..A953 A95F AA00..AA36 AA40..AA4D",
     "AA50..AA59 AA5C..AA5F FE24..FE26 10190..1019B 101D0..101FD 10280..1029C 102A0..102D0",
     "10920..10939 1093F 1D129 1F000..1F02B 1F030..1F093"]⟩,
  ⟨["5.2", "v52"],
    ["524..525 800..82D 830..83E 900 94E 955 979..97A 9FB FD5..FD8 109A..109D 115A..115E",
     "11A3..11A7 11FA..11FF 1400 1677..167F 18B0..18F5 19AA..19AB 19DA 1A20..1A5E 1A60..1A7C",
     "1A7F..1A89 1A90..1A99 1AA0..1AAD 1CD0..1CF2 1DFD 20B6..20B8 2150..2152 2189 23E8",
     "269E..269F 26BD..26BF 26C4..26CD 26CF..26E1 26E3 26E8..26FF 2757 2B55..2B59 2C70",
     "2C7E..2C7F 2CEB..2CF1 2E31 3244..324F 9FC4..9FCB A4D0..A4FF A6A0..A6F7 A830..A839",
     "A8E0..A8FB A960..A97C A980..A9CD A9CF..A9D9 A9DE..A9DF AA60..AA7B AA80..AAC2 AADB..AADF",
     "ABC0..ABED ABF0..ABF9 D7B0..D7C6 D7CB..D7FB FA6B..FA6D 10840..10855 10857..1085F",
     "1091A..1091B 10A60..10A7F 10B00..10B35 10B39..10B55 10B58..10B72 10B78..10B7F",
     "10C00..10C48 10E60..10E7E 11080..110C1 13000..1342E 1F100..1F10A 1F110..1F12E 1F131 1F13D",
     "1F13F 1F142 1F146 1F14A..1F14E 1F157 1F15F 1F179 1F17B..1F17C 1F17F 1F18A..1F18D 1F190",
     "1F200 1F210..1F231 1F240..1F248 2A700..2B734"]⟩,
  ⟨["6.0", "v60"],
    ["526..527 620 65F 840..85B 85E 93A..93B 94F 956..957 973..977 B72..B77 D29 D3A D4E",
     "F8C..F8F FD9..FDA 135D..135E 1BC0..1BF3 1BFC..1BFF 1DFC 2095..209C 20B9 23E9..23F3 26CE",
     "26E2 26E4..26E7 2705 270A..270B 2728 274C 274E 2753..2755 275F..2760 2795..2797 27B0 27BF",
     "27CE..27CF 2D70 2D7F 31B8..31BA A660..A661 A78D..A78E A790..A791 A7A0..A7A9 A7FA",
     "AB01..AB06 AB09..AB0E AB11..AB16 AB20..AB26 AB28..AB2E FBB2..FBC1 11000..1104D",
     "11052..1106F 16800..16A38 1B000..1B001 1F0A0..1F0AE 1F0B1..1F0BE 1F0C1..1F0CF",
     "1F0D1..1F0DF 1F130 1F132..1F13C 1F13E 1F140..1F141 1F143..1F145 1F147..1F149 1F14F..1F156",
     "1F158..1F15E 1F160..1F169 1F170..1F178 1F17A 1F17D..1F17E 1F180..1F189 1F18E..1F18F",
     "1F191..1F19A 1F1E6..1F1FF 1F201..1F202 1F232..1F23A 1F250..1F251 1F300..1F320",
     "1F330..1F335 1F337..1F37C 1F380..1F393 1F3A0..1F3C4 1F3C6..1F3CA 1F3E0..1F3F0",
     "1F400..1F43E 1F440 1F442..1F4F7 1F4F9..1F4FC 1F500..1F53D 1F550..1F567 1F5FB..1F5FF",
     "1F601..1F610 1F612..1F614 1F616 1F618 1F61A 1F61C..1F61E 1F620..1F625 1F628..1F62B 1F62D",
     "1F630..1F633 1F635..1F640 1F645..1F64F 1F680..1F6C5 1F700..1F773 2B740..2B81D"]⟩,
  ⟨["6.1", "v61"],
    ["58F 604 8A0 8A2..8AC 8E4..8FE AF0 EDE..EDF 10C7 10CD 10FD..10FF 1BAB..1BAD 1BBA..1BBF",
     "1CC0..1CC7 1CF3..1CF6 27CB 27CD 2CF2..2CF3 2D27 2D2D 2D66..2D67 2E32..2E3B 9FCC",
     "A674..A67B A69F A792..A793 A7AA A7F8..A7F9 AAE0..AAF6 FA2E..FA2F 10980..109B7",
     "109BE..109BF 110D0..110E8 110F0..110F9 11100..11134 11136..11143 11180..111C8",
     "111D0..111D9 11680..116B7 116C0..116C9 16F00..16F44 16F50..16F7E 16F8F..16F9F",
     "1EE00..1EE03 1EE05..1EE1F 1EE21..1EE22 1EE24 1EE27 1EE29..1EE32 1EE34..1EE37 1EE39 1EE3B",
     "1EE42 1EE47 1EE49 1EE4B 1EE4D..1EE4F 1EE51..1EE52 1EE54 1EE57 1EE59 1EE5B 1EE5D 1EE5F",
     "1EE61..1EE62 1EE64 1EE67..1EE6A 1EE6C..1EE72 1EE74..1EE77 1EE79..1EE7C 1EE7E 1EE80..1EE89",
     "1EE8B..1EE9B 1EEA1..1EEA3 1EEA5..1EEA9 1EEAB..1EEBB 1EEF0..1EEF1 1F16A..1F16B",
     "1F540..1F543 1F600 1F611 1F615 1F617 1F619 1F61B 1F61F 1F626..1F627 1F62C 1F62E..1F62F",
     "1F634"]⟩,
  ⟨["6.2", "v62"],
    ["20BA"]⟩,
  ⟨["6.3", "v63"],
    ["61C 2066..2069"]⟩,
  ⟨["7.0", "v70"],
    ["37F 528..52F 58D..58E 605 8A1 8AD..8B2 8FF 978 980 C00 C34 C81 D01 DE6..DEF 16F1..16F8",
     "191D..191E 1AB0..1ABE 1CF8..1CF9 1DE7..1DF5 20BB..20BD 23F4..23FA 2700 2B4D..2B4F",
     "2B5A..2B73 2B76..2B95 2B98..2BB9 2BBD..2BC8 2BCA..2BD1 2E3C..2E42 A698..A69D A794..A79F",
     "A7AB..A7AD A7B0..A7B1 A7F7 A9E0..A9FE AA7C..AA7F AB30..AB5F AB64..AB65 FE27..FE2D",
     "1018B..1018C 101A0 102E0..102FB 1031F 10350..1037A 10500..10527 10530..10563 1056F",
     "10600..10736 10740..10755 10760..10767 10860..1089E 108A7..108AF 10A80..10A9F",
     "10AC0..10AE6 10AEB..10AF6 10B80..10B91 10B99..10B9C 10BA9..10BAF 1107F 11150..11176 111CD",
     "111DA 111E1..111F4 11200..11211 11213..1123D 112B0..112EA 112F0..112F9 11301..11303",
     "11305..1130C 1130F..11310 11313..11328 1132A..11330 11332..11333 11335..11339",
     "1133C..11344 11347..11348 1134B..1134D 11357 1135D..11363 11366..1136C 11370..11374",
     "11480..114C7 114D0..114D9 11580..115B5 115B8..115C9 11600..11644 11650..11659",
     "118A0..118F2 118FF 11AC0..11AF8 1236F..12398 12463..1246E 12474 16A40..16A5E 16A60..16A69",
     "16A6E..16A6F 16AD0..16AED 16AF0..16AF5 16B00..16B45 16B50..16B59 16B5B..16B61",
     "16B63..16B77 16B7D..16B8F 1BC00..1BC6A 1BC70..1BC7C 1BC80..1BC88 1BC90..1BC99",
     "1BC9C..1BCA3 1E800..1E8C4 1E8C7..1E8D6 1F0BF 1F0E0..1F0F5 1F10B..1F10C 1F321..1F32C 1F336",
     "1F37D 1F394..1F39F 1F3C5 1F3CB..1F3CE 1F3D4..1F3DF 1F3F1..1F3F7 1F43F 1F441 1F4F8",
     "1F4FD..1F4FE 1F53E..1F53F 1F544..1F54A 1F568..1F579 1F57B..1F5A3 1F5A5..1F5FA",
     "1F641..1F642 1F650..1F67F 1F6C6..1F6CF 1F6E0..1F6EC 1F6F0..1F6F3 1F780..1F7D4",
     "1F800..1F80B 1F810..1F847 1F850..1F859 1F860..1F887 1F890..1F8AD"]⟩,
  ⟨["8.0", "v80"],
    ["8B3..8B4 8E3 AF9 C5A D5F 13F5 13F8..13FD 20BE 218A..218B 2BEC..2BEF 9FCD..9FD5 A69E A78F",
     "A7B2..A7B7 A8FC..A8FD AB60..AB63 AB70..ABBF FE2E..FE2F 108E0..108F2 108F4..108F5",
     "108FB..108FF 109BC..109BD 109C0..109CF 109D2..109FF 10C80..10CB2 10CC0..10CF2",
     "10CFA..10CFF 111C9..111CC 111DB..111DF 11280..11286 11288 1128A..1128D 1128F..1129D",
     "1129F..112A9 11300 11350 115CA..115DD 11700..11719 1171D..1172B 11730..1173F 12399",
     "12480..12543 14400..14646 1D1DE..1D1E8 1D800..1DA8B 1DA9B..1DA9F 1DAA1..1DAAF",
     "1F32D..1F32F 1F37E..1F37F 1F3CF..1F3D3 1F3F8..1F3FF 1F4FF 1F54B..1F54F 1F643..1F644 1F6D0",
     "1F910..1F918 1F980..1F984 1F9C0 2B820..2CEA1"]⟩,
  ⟨["9.0", "v90"],
    ["8B6..8BD 8D4..8E2 C80 D4F D54..D56 D58..D5E D76..D78 1C80..1C88 1DFB 23FB..23FE",
     "2E43..2E44 A7AE A8C5 1018D..1018E 104B0..104D3 104D8..104FB 1123E 11400..11459 1145B",
     "1145D 11660..1166C 11C00..11C08 11C0A..11C36 11C38..11C45 11C50..11C6C 11C70..11C8F",
     "11C92..11CA7 11CA9..11CB6 16FE0 17000..187EC 18800..18AF2 1E000..1E006 1E008..1E018",
     "1E01B..1E021 1E023..1E024 1E026..1E02A 1E900..1E94A 1E950..1E959 1E95E..1E95F",
     "1F19B..1F1AC 1F23B 1F57A 1F5A4 1F6D1..1F6D2 1F6F4..1F6F6 1F919..1F91E 1F920..1F927 1F930",
     "1F933..1F93E 1F940..1F94B 1F950..1F95E 1F985..1F991"]⟩,
  ⟨["10.0", "v100"],
    ["860..86A 9FC..9FD AFA..AFF D00 D3B..D3C 1CF7 1DF6..1DF9 20BF 23FF 2BD2 2E45..2E49 312E",
     "9FD6..9FEA 1032D..1032F 11A00..11A47 11A50..11A83 11A86..11A9C 11A9E..11AA2 11D00..11D06",
     "11D08..11D09 11D0B..11D36 11D3A 11D3C..11D3D 11D3F..11D47 11D50..11D59 16FE1 1B002..1B11E",
     "1B170..1B2FB 1F260..1F265 1F6D3..1F6D4 1F6F7..1F6F8 1F900..1F90B 1F91F 1F928..1F92F",
     "1F931..1F932 1F94C 1F95F..1F96B 1F992..1F997 1F9D0..1F9E6 2CEB0..2EBE0"]⟩,
  ⟨["11.0", "v110"],
    ["560 588 5EF 7FD..7FF 8D3 9FE A76 C04 C84 1878 1C90..1CBA 1CBD..1CBF 2BBA..2BBC 2BD3..2BEB",
     "2BF0..2BFE 2E4A..2E4E 312F 9FEB..9FEF A7AF A7B8..A7B9 A8FE..A8FF 10A34..10A35 10A48",
     "10D00..10D27 10D30..10D39 10F00..10F27 10F30..10F59 110CD 11144..11146 1133B 1145E 1171A",
     "11800..1183B 11A9D 11D60..11D65 11D67..11D68 11D6A..11D8E 11D90..11D91 11D93..11D98",
     "11DA0..11DA9 11EE0..11EF8 16E40..16E9A 187ED..187F1 1D2E0..1D2F3 1D372..1D378",
     "1EC71..1ECB4 1F12F 1F6F9 1F7D5..1F7D8 1F94D..1F94F 1F96C..1F970 1F973..1F976 1F97A",
     "1F97C..1F97F 1F998..1F9A2 1F9B0..1F9B9 1F9C1..1F9C2 1F9E7..1F9FF 1FA60..1FA6D"]⟩,
  ⟨["12.0", "v120"],
    ["C77 E86 E89 E8C E8E..E93 E98 EA0 EA8..EA9 EAC EBA 1CFA 2BC9 2BFF 2E4F A7BA..A7BF",
     "A7C2..A7C6 AB66..AB67 10FE0..10FF6 1145F 116B8 119A0..119A7 119AA..119D7 119DA..119E4",
     "11A84..11A85 11FC0..11FF1 11FFF 13430..13438 16F45..16F4A 16F4F 16F7F..16F87 16FE2..16FE3",
     "187F2..187F7 1B150..1B152 1B164..1B167 1E100..1E12C 1E130..1E13D 1E140..1E149",
     "1E14E..1E14F 1E2C0..1E2F9 1E2FF 1E94B 1ED01..1ED3D 1F16C 1F6D5 1F6FA 1F7E0..1F7EB",
     "1F90D..1F90F 1F93F 1F971 1F97B 1F9A5..1F9AA 1F9AE..1F9AF 1F9BA..1F9BF 1F9C3..1F9CA",
     "1F9CD..1F9CF 1FA00..1FA53 1FA70..1FA73 1FA78..1FA7A 1FA80..1FA82 1FA90..1FA95"]⟩,
  ⟨["12.1", "v121"],
    ["32FF"]⟩,
  ⟨["13.0", "v130"],
    ["8BE..8C7 B55 D04 D81 1ABF..1AC0 2B97 2E50..2E52 31BB..31BF 4DB6..4DBF 9FF0..9FFC",
     "A7C7..A7CA A7F5..A7F6 A82C AB68..AB6B 1019C 10E80..10EA9 10EAB..10EAD 10EB0..10EB1",
     "10FB0..10FCB 11147 111CE..111CF 1145A 11460..11461 11900..11906 11909 1190C..11913",
     "11915..11916 11918..11935 11937..11938 1193B..11946 11950..11959 11FB0 16FE4 16FF0..16FF1",
     "18AF3..18CD5 18D00..18D08 1F10D..1F10F 1F16D..1F16F 1F1AD 1F6D6..1F6D7 1F6FB..1F6FC",
     "1F8B0..1F8B1 1F90C 1F972 1F977..1F978 1F9A3..1F9A4 1F9AB..1F9AD 1F9CB 1FA74 1FA83..1FA86",
     "1FA96..1FAA8 1FAB0..1FAB6 1FAC0..1FAC2 1FAD0..1FAD6 1FB00..1FB92 1FB94..1FBCA",
     "1FBF0..1FBF9 2A6D7..2A6DD 30000..3134A"]⟩,
  ⟨["14.0", "v140"],
    ["61D 870..88E 890..891 898..89F 8B5 8C8..8D2 C3C C5D CDD 170D 1715 171F 180F 1AC1..1ACE",
     "1B4C 1B7D..1B7E 1DFA 20C0 2C2F 2C5F 2E53..2E5D 9FFD..9FFF A7C0..A7C1 A7D0..A7D1 A7D3",
     "A7D5..A7D9 A7F2..A7F4 FBC2 FD40..FD4F FDCF FDFE..FDFF 10570..1057A 1057C..1058A",
     "1058C..10592 10594..10595 10597..105A1 105A3..105B1 105B3..105B9 105BB..105BC",
     "10780..10785 10787..107B0 107B2..107BA 10F70..10F89 11070..11075 110C2 116B9 11740..11746",
     "11AB0..11ABF 12F90..12FF2 16A70..16ABE 16AC0..16AC9 1AFF0..1AFF3 1AFF5..1AFFB",
     "1AFFD..1AFFE 1B11F..1B122 1CF00..1CF2D 1CF30..1CF46 1CF50..1CFC3 1D1E9..1D1EA",
     "1DF00..1DF1E 1E290..1E2AE 1E7E0..1E7E6 1E7E8..1E7EB 1E7ED..1E7EE 1E7F0..1E7FE",
     "1F6DD..1F6DF 1F7F0 1F979 1F9CC 1FA7B..1FA7C 1FAA9..1FAAC 1FAB7..1FABA 1FAC3..1FAC5",
     "1FAD7..1FAD9 1FAE0..1FAE7 1FAF0..1FAF6 2A6DE..2A6DF 2B735..2B738"]⟩,
  ⟨["15.0", "v150"],
    ["CF3 ECE 10EFD..10EFF 1123F..11241 11B00..11B09 11F00..11F10 11F12..11F3A 11F3E..11F59",
     "1342F 13439..13455 1B132 1B155 1D2C0..1D2D3 1DF25..1DF2A 1E030..1E06D 1E08F 1E4D0..1E4F9",
     "1F6DC 1F774..1F776 1F77B..1F77F 1F7D9 1FA75..1FA77 1FA87..1FA88 1FAAD..1FAAF 1FABB..1FABD",
     "1FABF 1FACE..1FACF 1FADA..1FADB 1FAE8 1FAF7..1FAF8 2B739 31350..323AF"]⟩,
  ⟨["15.1", "v151"],
    ["2FFC..2FFF 31EF 2EBF0..2EE5D"]⟩,
  ⟨["16.0", "v160"],
    ["897 1B4E..1B4F 1B7F 1C89..1C8A 2427..2429 31E4..31E5 A7CB..A7CD A7DA..A7DC 105C0..105F3",
     "10D40..10D65 10D69..10D85 10D8E..10D8F 10EC2..10EC4 10EFC 11380..11389 1138B 1138E",
     "11390..113B5 113B7..113C0 113C2 113C5 113C7..113CA 113CC..113D5 113D7..113D8 113E1..113E2",
     "116D0..116E3 11BC0..11BE1 11BF0..11BF9 11F5A 13460..143FA 16100..16139 16D40..16D79 18CFF",
     "1CC00..1CCF9 1CD00..1CEB3 1E5D0..1E5FA 1E5FF 1F8B2..1F8BB 1F8C0..1F8C1 1FA89 1FA8F 1FABE",
     "1FAC6 1FADC 1FADF 1FAE9 1FBCB..1FBEF"]⟩]

end Flowgraph.Property
