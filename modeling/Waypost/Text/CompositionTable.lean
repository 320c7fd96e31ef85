/-!
# Composition tables

The letters of Unicode 14 that are made of others. `compositions` has those that a letter and a mark
become; `splits` has those that are taken apart but never put together again, and `substitutes`
those that stand for one other letter. Korean syllables are made by a rule of their own and are in
none of the tables.
-/

namespace Waypost.Text

/-- For each mark, the letters it can stand on with what they become. -/
def compositions : List (Nat × List (Nat × Nat)) :=
  [(768, [(65, 192), (69, 200), (73, 204), (79, 210), (85, 217), (97, 224), (101, 232), (105, 236),
      (111, 242), (117, 249), (220, 475), (252, 476), (78, 504), (110, 505), (1045, 1024),
      (1048, 1037), (1077, 1104), (1080, 1117), (274, 7700), (275, 7701), (332, 7760), (333, 7761),
      (87, 7808), (119, 7809), (194, 7846), (226, 7847), (258, 7856), (259, 7857), (202, 7872),
      (234, 7873), (212, 7890), (244, 7891), (416, 7900), (417, 7901), (431, 7914), (432, 7915),
      (89, 7922), (121, 7923), (7936, 7938), (7937, 7939), (7944, 7946), (7945, 7947), (7952, 7954),
      (7953, 7955), (7960, 7962), (7961, 7963), (7968, 7970), (7969, 7971), (7976, 7978),
      (7977, 7979), (7984, 7986), (7985, 7987), (7992, 7994), (7993, 7995), (8000, 8002),
      (8001, 8003), (8008, 8010), (8009, 8011), (8016, 8018), (8017, 8019), (8025, 8027),
      (8032, 8034), (8033, 8035), (8040, 8042), (8041, 8043), (945, 8048), (949, 8050), (951, 8052),
      (953, 8054), (959, 8056), (965, 8058), (969, 8060), (913, 8122), (917, 8136), (919, 8138),
      (8127, 8141), (970, 8146), (921, 8154), (8190, 8157), (971, 8162), (933, 8170), (168, 8173),
      (927, 8184), (937, 8186)]), (769, [(65, 193), (69, 201), (73, 205), (79, 211), (85, 218),
      (89, 221), (97, 225), (101, 233), (105, 237), (111, 243), (117, 250), (121, 253), (67, 262),
      (99, 263), (76, 313), (108, 314), (78, 323), (110, 324), (82, 340), (114, 341), (83, 346),
      (115, 347), (90, 377), (122, 378), (220, 471), (252, 472), (71, 500), (103, 501), (197, 506),
      (229, 507), (198, 508), (230, 509), (216, 510), (248, 511), (168, 901), (913, 902),
      (917, 904), (919, 905), (921, 906), (927, 908), (933, 910), (937, 911), (970, 912),
      (945, 940), (949, 941), (951, 942), (953, 943), (971, 944), (959, 972), (965, 973),
      (969, 974), (978, 979), (1043, 1027), (1050, 1036), (1075, 1107), (1082, 1116), (199, 7688),
      (231, 7689), (274, 7702), (275, 7703), (207, 7726), (239, 7727), (75, 7728), (107, 7729),
      (77, 7742), (109, 7743), (213, 7756), (245, 7757), (332, 7762), (333, 7763), (80, 7764),
      (112, 7765), (360, 7800), (361, 7801), (87, 7810), (119, 7811), (194, 7844), (226, 7845),
      (258, 7854), (259, 7855), (202, 7870), (234, 7871), (212, 7888), (244, 7889), (416, 7898),
      (417, 7899), (431, 7912), (432, 7913), (7936, 7940), (7937, 7941), (7944, 7948), (7945, 7949),
      (7952, 7956), (7953, 7957), (7960, 7964), (7961, 7965), (7968, 7972), (7969, 7973),
      (7976, 7980), (7977, 7981), (7984, 7988), (7985, 7989), (7992, 7996), (7993, 7997),
      (8000, 8004), (8001, 8005), (8008, 8012), (8009, 8013), (8016, 8020), (8017, 8021),
      (8025, 8029), (8032, 8036), (8033, 8037), (8040, 8044), (8041, 8045), (8127, 8142),
      (8190, 8158)]), (770, [(65, 194), (69, 202), (73, 206), (79, 212), (85, 219), (97, 226),
      (101, 234), (105, 238), (111, 244), (117, 251), (67, 264), (99, 265), (71, 284), (103, 285),
      (72, 292), (104, 293), (74, 308), (106, 309), (83, 348), (115, 349), (87, 372), (119, 373),
      (89, 374), (121, 375), (90, 7824), (122, 7825), (7840, 7852), (7841, 7853), (7864, 7878),
      (7865, 7879), (7884, 7896), (7885, 7897)]), (771, [(65, 195), (78, 209), (79, 213), (97, 227),
      (110, 241), (111, 245), (73, 296), (105, 297), (85, 360), (117, 361), (86, 7804), (118, 7805),
      (194, 7850), (226, 7851), (258, 7860), (259, 7861), (69, 7868), (101, 7869), (202, 7876),
      (234, 7877), (212, 7894), (244, 7895), (416, 7904), (417, 7905), (431, 7918), (432, 7919),
      (89, 7928), (121, 7929)]), (772, [(65, 256), (97, 257), (69, 274), (101, 275), (73, 298),
      (105, 299), (79, 332), (111, 333), (85, 362), (117, 363), (220, 469), (252, 470), (196, 478),
      (228, 479), (550, 480), (551, 481), (198, 482), (230, 483), (490, 492), (491, 493),
      (214, 554), (246, 555), (213, 556), (245, 557), (558, 560), (559, 561), (89, 562), (121, 563),
      (1048, 1250), (1080, 1251), (1059, 1262), (1091, 1263), (71, 7712), (103, 7713), (7734, 7736),
      (7735, 7737), (7770, 7772), (7771, 7773), (945, 8113), (913, 8121), (953, 8145), (921, 8153),
      (965, 8161), (933, 8169)]), (774, [(65, 258), (97, 259), (69, 276), (101, 277), (71, 286),
      (103, 287), (73, 300), (105, 301), (79, 334), (111, 335), (85, 364), (117, 365), (1059, 1038),
      (1048, 1049), (1080, 1081), (1091, 1118), (1046, 1217), (1078, 1218), (1040, 1232),
      (1072, 1233), (1045, 1238), (1077, 1239), (552, 7708), (553, 7709), (7840, 7862),
      (7841, 7863), (945, 8112), (913, 8120), (953, 8144), (921, 8152), (965, 8160), (933, 8168)]),
      (775, [(67, 266), (99, 267), (69, 278), (101, 279), (71, 288), (103, 289), (73, 304),
      (90, 379), (122, 380), (65, 550), (97, 551), (79, 558), (111, 559), (66, 7682), (98, 7683),
      (68, 7690), (100, 7691), (70, 7710), (102, 7711), (72, 7714), (104, 7715), (77, 7744),
      (109, 7745), (78, 7748), (110, 7749), (80, 7766), (112, 7767), (82, 7768), (114, 7769),
      (83, 7776), (115, 7777), (346, 7780), (347, 7781), (352, 7782), (353, 7783), (7778, 7784),
      (7779, 7785), (84, 7786), (116, 7787), (87, 7814), (119, 7815), (88, 7818), (120, 7819),
      (89, 7822), (121, 7823), (383, 7835)]), (776, [(65, 196), (69, 203), (73, 207), (79, 214),
      (85, 220), (97, 228), (101, 235), (105, 239), (111, 246), (117, 252), (121, 255), (89, 376),
      (921, 938), (933, 939), (953, 970), (965, 971), (978, 980), (1045, 1025), (1030, 1031),
      (1077, 1105), (1110, 1111), (1040, 1234), (1072, 1235), (1240, 1242), (1241, 1243),
      (1046, 1244), (1078, 1245), (1047, 1246), (1079, 1247), (1048, 1252), (1080, 1253),
      (1054, 1254), (1086, 1255), (1256, 1258), (1257, 1259), (1069, 1260), (1101, 1261),
      (1059, 1264), (1091, 1265), (1063, 1268), (1095, 1269), (1067, 1272), (1099, 1273),
      (72, 7718), (104, 7719), (213, 7758), (245, 7759), (362, 7802), (363, 7803), (87, 7812),
      (119, 7813), (88, 7820), (120, 7821), (116, 7831)]), (777, [(65, 7842), (97, 7843),
      (194, 7848), (226, 7849), (258, 7858), (259, 7859), (69, 7866), (101, 7867), (202, 7874),
      (234, 7875), (73, 7880), (105, 7881), (79, 7886), (111, 7887), (212, 7892), (244, 7893),
      (416, 7902), (417, 7903), (85, 7910), (117, 7911), (431, 7916), (432, 7917), (89, 7926),
      (121, 7927)]), (778, [(65, 197), (97, 229), (85, 366), (117, 367), (119, 7832), (121, 7833)]),
      (779, [(79, 336), (111, 337), (85, 368), (117, 369), (1059, 1266), (1091, 1267)]),
      (780, [(67, 268), (99, 269), (68, 270), (100, 271), (69, 282), (101, 283), (76, 317),
      (108, 318), (78, 327), (110, 328), (82, 344), (114, 345), (83, 352), (115, 353), (84, 356),
      (116, 357), (90, 381), (122, 382), (65, 461), (97, 462), (73, 463), (105, 464), (79, 465),
      (111, 466), (85, 467), (117, 468), (220, 473), (252, 474), (71, 486), (103, 487), (75, 488),
      (107, 489), (439, 494), (658, 495), (106, 496), (72, 542), (104, 543)]), (783, [(65, 512),
      (97, 513), (69, 516), (101, 517), (73, 520), (105, 521), (79, 524), (111, 525), (82, 528),
      (114, 529), (85, 532), (117, 533), (1140, 1142), (1141, 1143)]), (785, [(65, 514), (97, 515),
      (69, 518), (101, 519), (73, 522), (105, 523), (79, 526), (111, 527), (82, 530), (114, 531),
      (85, 534), (117, 535)]), (787, [(945, 7936), (913, 7944), (949, 7952), (917, 7960),
      (951, 7968), (919, 7976), (953, 7984), (921, 7992), (959, 8000), (927, 8008), (965, 8016),
      (969, 8032), (937, 8040), (961, 8164)]), (788, [(945, 7937), (913, 7945), (949, 7953),
      (917, 7961), (951, 7969), (919, 7977), (953, 7985), (921, 7993), (959, 8001), (927, 8009),
      (965, 8017), (933, 8025), (969, 8033), (937, 8041), (961, 8165), (929, 8172)]),
      (795, [(79, 416), (111, 417), (85, 431), (117, 432)]), (803, [(66, 7684), (98, 7685),
      (68, 7692), (100, 7693), (72, 7716), (104, 7717), (75, 7730), (107, 7731), (76, 7734),
      (108, 7735), (77, 7746), (109, 7747), (78, 7750), (110, 7751), (82, 7770), (114, 7771),
      (83, 7778), (115, 7779), (84, 7788), (116, 7789), (86, 7806), (118, 7807), (87, 7816),
      (119, 7817), (90, 7826), (122, 7827), (65, 7840), (97, 7841), (69, 7864), (101, 7865),
      (73, 7882), (105, 7883), (79, 7884), (111, 7885), (416, 7906), (417, 7907), (85, 7908),
      (117, 7909), (431, 7920), (432, 7921), (89, 7924), (121, 7925)]), (804, [(85, 7794),
      (117, 7795)]), (805, [(65, 7680), (97, 7681)]), (806, [(83, 536), (115, 537), (84, 538),
      (116, 539)]), (807, [(67, 199), (99, 231), (71, 290), (103, 291), (75, 310), (107, 311),
      (76, 315), (108, 316), (78, 325), (110, 326), (82, 342), (114, 343), (83, 350), (115, 351),
      (84, 354), (116, 355), (69, 552), (101, 553), (68, 7696), (100, 7697), (72, 7720),
      (104, 7721)]), (808, [(65, 260), (97, 261), (69, 280), (101, 281), (73, 302), (105, 303),
      (85, 370), (117, 371), (79, 490), (111, 491)]), (813, [(68, 7698), (100, 7699), (69, 7704),
      (101, 7705), (76, 7740), (108, 7741), (78, 7754), (110, 7755), (84, 7792), (116, 7793),
      (85, 7798), (117, 7799)]), (814, [(72, 7722), (104, 7723)]), (816, [(69, 7706), (101, 7707),
      (73, 7724), (105, 7725), (85, 7796), (117, 7797)]), (817, [(66, 7686), (98, 7687), (68, 7694),
      (100, 7695), (75, 7732), (107, 7733), (76, 7738), (108, 7739), (78, 7752), (110, 7753),
      (82, 7774), (114, 7775), (84, 7790), (116, 7791), (90, 7828), (122, 7829), (104, 7830)]),
      (824, [(8592, 8602), (8594, 8603), (8596, 8622), (8656, 8653), (8660, 8654), (8658, 8655),
      (8707, 8708), (8712, 8713), (8715, 8716), (8739, 8740), (8741, 8742), (8764, 8769),
      (8771, 8772), (8773, 8775), (8776, 8777), (61, 8800), (8801, 8802), (8781, 8813), (60, 8814),
      (62, 8815), (8804, 8816), (8805, 8817), (8818, 8820), (8819, 8821), (8822, 8824),
      (8823, 8825), (8826, 8832), (8827, 8833), (8834, 8836), (8835, 8837), (8838, 8840),
      (8839, 8841), (8866, 8876), (8872, 8877), (8873, 8878), (8875, 8879), (8828, 8928),
      (8829, 8929), (8849, 8930), (8850, 8931), (8882, 8938), (8883, 8939), (8884, 8940),
      (8885, 8941)]), (834, [(7936, 7942), (7937, 7943), (7944, 7950), (7945, 7951), (7968, 7974),
      (7969, 7975), (7976, 7982), (7977, 7983), (7984, 7990), (7985, 7991), (7992, 7998),
      (7993, 7999), (8016, 8022), (8017, 8023), (8025, 8031), (8032, 8038), (8033, 8039),
      (8040, 8046), (8041, 8047), (945, 8118), (168, 8129), (951, 8134), (8127, 8143), (953, 8150),
      (970, 8151), (8190, 8159), (965, 8166), (971, 8167), (969, 8182)]), (837, [(7936, 8064),
      (7937, 8065), (7938, 8066), (7939, 8067), (7940, 8068), (7941, 8069), (7942, 8070),
      (7943, 8071), (7944, 8072), (7945, 8073), (7946, 8074), (7947, 8075), (7948, 8076),
      (7949, 8077), (7950, 8078), (7951, 8079), (7968, 8080), (7969, 8081), (7970, 8082),
      (7971, 8083), (7972, 8084), (7973, 8085), (7974, 8086), (7975, 8087), (7976, 8088),
      (7977, 8089), (7978, 8090), (7979, 8091), (7980, 8092), (7981, 8093), (7982, 8094),
      (7983, 8095), (8032, 8096), (8033, 8097), (8034, 8098), (8035, 8099), (8036, 8100),
      (8037, 8101), (8038, 8102), (8039, 8103), (8040, 8104), (8041, 8105), (8042, 8106),
      (8043, 8107), (8044, 8108), (8045, 8109), (8046, 8110), (8047, 8111), (8048, 8114),
      (945, 8115), (940, 8116), (8118, 8119), (913, 8124), (8052, 8130), (951, 8131), (942, 8132),
      (8134, 8135), (919, 8140), (8060, 8178), (969, 8179), (974, 8180), (8182, 8183),
      (937, 8188)]), (1619, [(1575, 1570)]), (1620, [(1575, 1571), (1608, 1572), (1610, 1574),
      (1749, 1728), (1729, 1730), (1746, 1747)]), (1621, [(1575, 1573)]), (2364, [(2344, 2345),
      (2352, 2353), (2355, 2356)]), (2494, [(2503, 2507)]), (2519, [(2503, 2508)]),
      (2878, [(2887, 2891)]), (2902, [(2887, 2888)]), (2903, [(2887, 2892)]), (3006, [(3014, 3018),
      (3015, 3019)]), (3031, [(2962, 2964), (3014, 3020)]), (3158, [(3142, 3144)]),
      (3266, [(3270, 3274)]), (3285, [(3263, 3264), (3270, 3271), (3274, 3275)]),
      (3286, [(3270, 3272)]), (3390, [(3398, 3402), (3399, 3403)]), (3415, [(3398, 3404)]),
      (3530, [(3545, 3546), (3548, 3549)]), (3535, [(3545, 3548)]), (3551, [(3545, 3550)]),
      (4142, [(4133, 4134)]), (6965, [(6917, 6918), (6919, 6920), (6921, 6922), (6923, 6924),
      (6925, 6926), (6929, 6930), (6970, 6971), (6972, 6973), (6974, 6976), (6975, 6977),
      (6978, 6979)]), (12441, [(12363, 12364), (12365, 12366), (12367, 12368), (12369, 12370),
      (12371, 12372), (12373, 12374), (12375, 12376), (12377, 12378), (12379, 12380),
      (12381, 12382), (12383, 12384), (12385, 12386), (12388, 12389), (12390, 12391),
      (12392, 12393), (12399, 12400), (12402, 12403), (12405, 12406), (12408, 12409),
      (12411, 12412), (12358, 12436), (12445, 12446), (12459, 12460), (12461, 12462),
      (12463, 12464), (12465, 12466), (12467, 12468), (12469, 12470), (12471, 12472),
      (12473, 12474), (12475, 12476), (12477, 12478), (12479, 12480), (12481, 12482),
      (12484, 12485), (12486, 12487), (12488, 12489), (12495, 12496), (12498, 12499),
      (12501, 12502), (12504, 12505), (12507, 12508), (12454, 12532), (12527, 12535),
      (12528, 12536), (12529, 12537), (12530, 12538), (12541, 12542)]), (12442, [(12399, 12401),
      (12402, 12404), (12405, 12407), (12408, 12410), (12411, 12413), (12495, 12497),
      (12498, 12500), (12501, 12503), (12504, 12506), (12507, 12509)]), (69818, [(69785, 69786),
      (69787, 69788), (69797, 69803)]), (69927, [(69937, 69934), (69938, 69935)]),
      (70462, [(70471, 70475)]), (70487, [(70471, 70476)]), (70832, [(70841, 70844)]),
      (70842, [(70841, 70843)]), (70845, [(70841, 70846)]), (71087, [(71096, 71098),
      (71097, 71099)]), (71984, [(71989, 71992)])]

/-- Letters that are only taken apart, each with its two parts. -/
def splits : List (Nat × Nat × Nat) :=
  [(836, 776, 769), (2392, 2325, 2364), (2393, 2326, 2364), (2394, 2327, 2364), (2395, 2332, 2364),
   (2396, 2337, 2364), (2397, 2338, 2364), (2398, 2347, 2364), (2399, 2351, 2364),
   (2524, 2465, 2492), (2525, 2466, 2492), (2527, 2479, 2492), (2611, 2610, 2620),
   (2614, 2616, 2620), (2649, 2582, 2620), (2650, 2583, 2620), (2651, 2588, 2620),
   (2654, 2603, 2620), (2908, 2849, 2876), (2909, 2850, 2876), (3907, 3906, 4023),
   (3917, 3916, 4023), (3922, 3921, 4023), (3927, 3926, 4023), (3932, 3931, 4023),
   (3945, 3904, 4021), (3955, 3953, 3954), (3957, 3953, 3956), (3958, 4018, 3968),
   (3960, 4019, 3968), (3969, 3953, 3968), (3987, 3986, 4023), (3997, 3996, 4023),
   (4002, 4001, 4023), (4007, 4006, 4023), (4012, 4011, 4023), (4025, 3984, 4021),
   (10972, 10973, 824), (64285, 1497, 1460), (64287, 1522, 1463), (64298, 1513, 1473),
   (64299, 1513, 1474), (64300, 64329, 1473), (64301, 64329, 1474), (64302, 1488, 1463),
   (64303, 1488, 1464), (64304, 1488, 1468), (64305, 1489, 1468), (64306, 1490, 1468),
   (64307, 1491, 1468), (64308, 1492, 1468), (64309, 1493, 1468), (64310, 1494, 1468),
   (64312, 1496, 1468), (64313, 1497, 1468), (64314, 1498, 1468), (64315, 1499, 1468),
   (64316, 1500, 1468), (64318, 1502, 1468), (64320, 1504, 1468), (64321, 1505, 1468),
   (64323, 1507, 1468), (64324, 1508, 1468), (64326, 1510, 1468), (64327, 1511, 1468),
   (64328, 1512, 1468), (64329, 1513, 1468), (64330, 1514, 1468), (64331, 1493, 1465),
   (64332, 1489, 1471), (64333, 1499, 1471), (64334, 1508, 1471), (119134, 119127, 119141),
   (119135, 119128, 119141), (119136, 119135, 119150), (119137, 119135, 119151),
   (119138, 119135, 119152), (119139, 119135, 119153), (119140, 119135, 119154),
   (119227, 119225, 119141), (119228, 119226, 119141), (119229, 119227, 119150),
   (119230, 119228, 119150), (119231, 119227, 119151), (119232, 119228, 119151)]

/-- Runs of letters that stand for others: the first of the run, and what it and those after it
stand for. -/
def substitutes : List (Nat × List Nat) :=
  [(832, [768, 769]), (835, [787]), (884, [697]), (894, [59]), (903, [183]), (8049, [940]),
   (8051, [941]), (8053, [942]), (8055, [943]), (8057, [972]), (8059, [973]), (8061, [974]),
   (8123, [902]), (8126, [953]), (8137, [904]), (8139, [905]), (8147, [912]), (8155, [906]),
   (8163, [944]), (8171, [910]), (8174, [901, 96]), (8185, [908]), (8187, [911]), (8189, [180]),
   (8192, [8194, 8195]), (8486, [937]), (8490, [75, 197]), (9001, [12296, 12297]), (63744, [35912,
   26356, 36554, 36040, 28369, 20018, 21477, 40860, 40860, 22865, 37329, 21895, 22856, 25078, 30313,
   32645, 34367, 34746, 35064, 37007, 27138, 27931, 28889, 29662, 33853, 37226, 39409, 20098, 21365,
   27396, 29211, 34349, 40478, 23888, 28651, 34253, 35172, 25289, 33240, 34847, 24266, 26391, 28010,
   29436, 37070, 20358, 20919, 21214, 25796, 27347, 29200, 30439, 32769, 34310, 34396, 36335, 38706,
   39791, 40442, 30860, 31103, 32160, 33737, 37636, 40575, 35542, 22751, 24324, 31840, 32894, 29282,
   30922, 36034, 38647, 22744, 23650, 27155, 28122, 28431, 32047, 32311, 38475, 21202, 32907, 20956,
   20940, 31260, 32190, 33777, 38517, 35712, 25295, 27138, 35582, 20025, 23527, 24594, 29575, 30064,
   21271, 30971, 20415, 24489, 19981, 27852, 25976, 32034, 21443, 22622, 30465, 33865, 35498, 27578,
   36784, 27784, 25342, 33509, 25504, 30053, 20142, 20841, 20937, 26753, 31975, 33391, 35538, 37327,
   21237, 21570, 22899, 24300, 26053, 28670, 31018, 38317, 39530, 40599, 40654, 21147, 26310, 27511,
   36706, 24180, 24976, 25088, 25754, 28451, 29001, 29833, 31178, 32244, 32879, 36646, 34030, 36899,
   37706, 21015, 21155, 21693, 28872, 35010, 35498, 24265, 24565, 25467, 27566, 31806, 29557, 20196,
   22265, 23527, 23994, 24604, 29618, 29801, 32666, 32838, 37428, 38646, 38728, 38936, 20363, 31150,
   37300, 38584, 24801, 20102, 20698, 23534, 23615, 26009, 27138, 29134, 30274, 34044, 36988, 40845,
   26248, 38446, 21129, 26491, 26611, 27969, 28316, 29705, 30041, 30827, 32016, 39006, 20845, 25134,
   38520, 20523, 23833, 28138, 36650, 24459, 24900, 26647, 29575, 38534, 21033, 21519, 23653, 26131,
   26446, 26792, 27877, 29702, 30178, 32633, 35023, 35041, 37324, 38626, 21311, 28346, 21533, 29136,
   29848, 34298, 38563, 40023, 40607, 26519, 28107, 33256, 31435, 31520, 31890, 29376, 28825, 35672,
   20160, 33590, 21050, 20999, 24230, 25299, 31958, 23429, 27934, 26292, 36667, 34892, 38477, 35211,
   24275, 20800, 21952]), (64016, [22618]), (64018, [26228]), (64021, [20958, 29482, 30410, 31036,
   31070, 31077, 31119, 38742, 31934, 32701]), (64032, [34322]), (64034, [35576]), (64037, [36920,
   37117]), (64042, [39151, 39164, 39208, 40372, 37086, 38583, 20398, 20711, 20813, 21193, 21220,
   21329, 21917, 22022, 22120, 22592, 22696, 23652, 23662, 24724, 24936, 24974, 25074, 25935, 26082,
   26257, 26757, 28023, 28186, 28450, 29038, 29227, 29730, 30865, 31038, 31049, 31048, 31056, 31062,
   31069, 31117, 31118, 31296, 31361, 31680, 32244, 32265, 32321, 32626, 32773, 33261, 33401, 33401,
   33879, 35088, 35222, 35585, 35641, 36051, 36104, 36790, 36920, 38627, 38911, 38971, 24693,
   148206, 33304]), (64112, [20006, 20917, 20840, 20352, 20805, 20864, 21191, 21242, 21917, 21845,
   21913, 21986, 22618, 22707, 22852, 22868, 23138, 23336, 24274, 24281, 24425, 24493, 24792, 24910,
   24840, 24974, 24928, 25074, 25140, 25540, 25628, 25682, 25942, 26228, 26391, 26395, 26454, 27513,
   27578, 27969, 28379, 28363, 28450, 28702, 29038, 30631, 29237, 29359, 29482, 29809, 29958, 30011,
   30237, 30239, 30410, 30427, 30452, 30538, 30528, 30924, 31409, 31680, 31867, 32091, 32244, 32574,
   32773, 33618, 33775, 34681, 35137, 35206, 35222, 35519, 35576, 35531, 35585, 35582, 35565, 35641,
   35722, 36104, 36664, 36978, 37273, 37494, 38524, 38627, 38742, 38875, 38911, 38923, 38971, 39698,
   40860, 141386, 141380, 144341, 15261, 16408, 16441, 152137, 154832, 163539, 40771, 40846]),
   (194560, [20029, 20024, 20033, 131362, 20320, 20398, 20411, 20482, 20602, 20633, 20711, 20687,
   13470, 132666, 20813, 20820, 20836, 20855, 132380, 13497, 20839, 20877, 132427, 20887, 20900,
   20172, 20908, 20917, 168415, 20981, 20995, 13535, 21051, 21062, 21106, 21111, 13589, 21191,
   21193, 21220, 21242, 21253, 21254, 21271, 21321, 21329, 21338, 21363, 21373, 21375, 21375, 21375,
   133676, 28784, 21450, 21471, 133987, 21483, 21489, 21510, 21662, 21560, 21576, 21608, 21666,
   21750, 21776, 21843, 21859, 21892, 21892, 21913, 21931, 21939, 21954, 22294, 22022, 22295, 22097,
   22132, 20999, 22766, 22478, 22516, 22541, 22411, 22578, 22577, 22700, 136420, 22770, 22775,
   22790, 22810, 22818, 22882, 136872, 136938, 23020, 23067, 23079, 23000, 23142, 14062, 14076,
   23304, 23358, 23358, 137672, 23491, 23512, 23527, 23539, 138008, 23551, 23558, 24403, 23586,
   14209, 23648, 23662, 23744, 23693, 138724, 23875, 138726, 23918, 23915, 23932, 24033, 24034,
   14383, 24061, 24104, 24125, 24169, 14434, 139651, 14460, 24240, 24243, 24246, 24266, 172946,
   24318, 140081, 140081, 33281, 24354, 24354, 14535, 144056, 156122, 24418, 24427, 14563, 24474,
   24525, 24535, 24569, 24705, 14650, 14620, 24724, 141012, 24775, 24904, 24908, 24910, 24908,
   24954, 24974, 25010, 24996, 25007, 25054, 25074, 25078, 25104, 25115, 25181, 25265, 25300, 25424,
   142092, 25405, 25340, 25448, 25475, 25572, 142321, 25634, 25541, 25513, 14894, 25705, 25726,
   25757, 25719, 14956, 25935, 25964, 143370, 26083, 26360, 26185, 15129, 26257, 15112, 15076,
   20882, 20885, 26368, 26268, 32941, 17369, 26391, 26395, 26401, 26462, 26451, 144323, 15177,
   26618, 26501, 26706, 26757, 144493, 26766, 26655, 26900, 15261, 26946, 27043, 27114, 27304,
   145059, 27355, 15384, 27425, 145575, 27476, 15438, 27506, 27551, 27578, 27579, 146061, 138507,
   146170, 27726, 146620, 27839, 27853, 27751, 27926, 27966, 28023, 27969, 28009, 28024, 28037,
   146718, 27956, 28207, 28270, 15667, 28363, 28359, 147153, 28153, 28526, 147294, 147342, 28614,
   28729, 28702, 28699, 15766, 28746, 28797, 28791, 28845, 132389, 28997, 148067, 29084, 148395,
   29224, 29237, 29264, 149000, 29312, 29333, 149301, 149524, 29562, 29579, 16044, 29605, 16056,
   16056, 29767, 29788, 29809, 29829, 29898, 16155, 29988, 150582, 30014, 150674, 30064, 139679,
   30224, 151457, 151480, 151620, 16380, 16392, 30452, 151795, 151794, 151833, 151859, 30494, 30495,
   30495, 30538, 16441, 30603, 16454, 16534, 152605, 30798, 30860, 30924, 16611, 153126, 31062,
   153242, 153285, 31119, 31211, 16687, 31296, 31306, 31311, 153980, 154279, 154279, 31470, 16898,
   154539, 31686, 31689, 16935, 154752, 31954, 17056, 31976, 31971, 32000, 155526, 32099, 17153,
   32199, 32258, 32325, 17204, 156200, 156231, 17241, 156377, 32634, 156478, 32661, 32762, 32773,
   156890, 156963, 32864, 157096, 32880, 144223, 17365, 32946, 33027, 17419, 33086, 23221, 157607,
   157621, 144275, 144284, 33281, 33284, 36766, 17515, 33425, 33419, 33437, 21171, 33457, 33459,
   33469, 33510, 158524, 33509, 33565, 33635, 33709, 33571, 33725, 33767, 33879, 33619, 33738,
   33740, 33756, 158774, 159083, 158933, 17707, 34033, 34035, 34070, 160714, 34148, 159532, 17757,
   17761, 159665, 159954, 17771, 34384, 34396, 34407, 34409, 34473, 34440, 34574, 34530, 34681,
   34600, 34667, 34694, 17879, 34785, 34817, 17913, 34912, 34915, 161383, 35031, 35038, 17973,
   35066, 13499, 161966, 162150, 18110, 18119, 35488, 35565, 35722, 35925, 162984, 36011, 36033,
   36123, 36215, 163631, 133124, 36299, 36284, 36336, 133342, 36564, 36664, 165330, 165357, 37012,
   37105, 37137, 165678, 37147, 37432, 37591, 37592, 37500, 37881, 37909, 166906, 38283, 18837,
   38327, 167287, 18918, 38595, 23986, 38691, 168261, 168474, 19054, 19062, 38880, 168970, 19122,
   169110, 38923, 38923, 38953, 169398, 39138, 19251, 39209, 39335, 39362, 39422, 19406, 170800,
   39698, 40000, 40189, 19662, 19693, 40295, 172238, 19704, 172293, 172558, 172689, 40635, 19798,
   40697, 40702, 40709, 40719, 40726, 40763, 173568])]

end Waypost.Text
